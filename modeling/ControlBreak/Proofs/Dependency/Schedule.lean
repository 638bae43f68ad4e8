import ControlBreak.Proofs.Dependency.Countdown

/-!
# Schedules

A schedule lists all names of a graph once, each after its dependencies. The order
of evaluation is the *stable* one: wherever it goes on, the name that stands first
in the graph goes first, among those whose dependencies are listed. So no other
schedule comes before it, compared name by name by their places in the graph.

* `perm_orderFrom`: in a graph without circles the order leaves no name out, since
  among the names to do, one that no chain leads on from is always ready;
* `order_stable_or_circular`: a graph has a stable order, or a circle and no order.
-/

namespace ControlBreak

namespace Graph

variable {ν : Type} [BEq ν] {g : Graph ν} {done todo order : List ν} {n m : ν}

/-- All names of a graph, each once and after its dependencies. -/
structure IsSchedule (g : Graph ν) (order : List ν) : Prop where
  nodup : order.Nodup
  mem_iff : ∀ n, n ∈ order ↔ n ∈ g.keys ∨ ∃ e ∈ g.entries, n ∈ e.2
  after : ∀ before n later, order = before ++ n :: later → ∀ d ∈ g.deps n, d ∈ before

/-- The schedule that keeps the places of the names as far as it can. -/
structure IsStable (g : Graph ν) (order : List ν) : Prop extends g.IsSchedule order where
  /-- No name that could have come next stands before the one that comes next. -/
  first : ∀ before n later, order = before ++ n :: later →
    ∀ m ∈ g.nodes, m ∉ before → (∀ d ∈ g.deps m, d ∈ before) → g.place n ≤ g.place m
  /-- No other schedule is less, compared by places from the first name on. -/
  least : ∀ other, g.IsSchedule other →
    order = other ∨ List.Lex (fun n m => g.place n < g.place m) order other

/-- Each name has all of its dependencies done or listed before it. -/
def Follows (g : Graph ν) (done : List ν) : List ν → Prop
  | [] => True
  | n :: rest => (∀ d ∈ g.deps n, d ∈ done) ∧ g.Follows (n :: done) rest

/-- Nothing outside of what is done or to do is needed. -/
def IsClosed (g : Graph ν) (done todo : List ν) : Prop :=
  ∀ n ∈ todo, ∀ d ∈ g.deps n, d ∈ done ∨ d ∈ todo

/-! ### One choice -/

/-- The chosen name stands before all others that have the property. -/
theorem IsPlaced.eq_or_lt {p : ν → Bool} (hs : g.IsPlaced todo) (h : todo.find? p = some n)
    (hm : m ∈ todo) (hp : p m) : m = n ∨ g.place n < g.place m := by
  obtain ⟨l₁, l₂, rfl, -, hl⟩ := exists_of_find? h
  rcases List.mem_append.1 hm with hm | hm
  · exact absurd hp (hl m hm)
  · rcases List.mem_cons.1 hm with rfl | hm
    · exact .inl rfl
    · exact .inr (List.rel_of_pairwise_cons (List.pairwise_append.1 hs).2.1 hm)

theorem IsClosed.step {p : ν → Bool} (hc : g.IsClosed done todo) (h : todo.find? p = some n) :
    g.IsClosed (n :: done) (todo.eraseP p) := by
  have hp := perm_eraseP h
  intro m hm d hd
  rcases hc m (hp.subset (List.mem_cons_of_mem _ hm)) d hd with hd | hd
  · exact .inl (List.mem_cons_of_mem _ hd)
  · rcases List.mem_cons.1 (hp.symm.subset hd) with rfl | hd
    exacts [.inl List.mem_cons_self, .inr hd]

theorem follows_of_after (h : ∀ before n later, order = before ++ n :: later →
    ∀ d ∈ g.deps n, d ∈ before ∨ d ∈ done) : g.Follows done order := by
  induction order generalizing done with
  | nil => trivial
  | cons n rest ih =>
    refine ⟨fun d hd => (h [] n rest rfl d hd).resolve_left List.not_mem_nil, ih ?_⟩
    rintro before m later rfl d hd
    rcases h (n :: before) m later rfl d hd with hd | hd
    · rcases List.mem_cons.1 hd with rfl | hd
      exacts [.inr List.mem_cons_self, .inl hd]
    · exact .inr (List.mem_cons_of_mem _ hd)

theorem IsSchedule.follows (h : g.IsSchedule order) : g.Follows [] order :=
  follows_of_after fun before n later he d hd => .inl (h.after before n later he d hd)

section Lawful

variable [LawfulBEq ν]

/-- Among names to do that need nothing else, one is ready. -/
theorem exists_ready (hn : n ∈ todo) (hg : g.Grounded n) (hc : g.IsClosed done todo) :
    ∃ m ∈ todo, g.isReady done m := by
  -- Follow the chain of dependencies that are not done; it ends.
  induction hg with
  | intro n _ ih =>
    by_cases hr : g.isReady done n
    · exact ⟨n, hn, hr⟩
    · rw [isReady_iff] at hr
      push Not at hr
      obtain ⟨d, hd, hdone⟩ := hr
      exact ih d hd ((hc n hn d hd).resolve_left hdone)

/-! ### The whole order -/

/-- Without circles, the order takes all names to do. -/
theorem perm_orderFrom (hg : ∀ n, g.Grounded n) (hc : g.IsClosed done todo) :
    (g.orderFrom done todo).Perm todo := by
  induction done, todo using orderFrom.induct g with
  | case1 done todo h =>
    rw [orderFrom_eq_nil h]
    cases todo with
    | nil => exact .refl _
    | cons n rest =>
      obtain ⟨m, hm, hr⟩ := exists_ready List.mem_cons_self (hg n) hc
      exact absurd hr (List.find?_eq_none.1 h m hm)
  | case2 done todo n h ih =>
    rw [orderFrom_eq_cons h]
    exact ((ih (hc.step h)).cons n).trans (perm_eraseP h)

/-- What comes next in the order has its dependencies done, and stands before all
    others of which this is true. -/
theorem choice_of_orderFrom {before later : List ν} (hs : g.IsPlaced todo)
    (h : g.orderFrom done todo = before ++ n :: later) :
    (∀ d ∈ g.deps n, d ∈ before ∨ d ∈ done) ∧
      ∀ m ∈ todo, m ∉ before → (∀ d ∈ g.deps m, d ∈ before ∨ d ∈ done) →
        g.place n ≤ g.place m := by
  induction before generalizing done todo with
  | nil =>
    cases hf : todo.find? (g.isReady done) with
    | none => simp [orderFrom_eq_nil hf] at h
    | some k =>
      rw [orderFrom_eq_cons hf, List.nil_append, List.cons.injEq] at h
      obtain ⟨rfl, -⟩ := h
      refine ⟨fun d hd => .inr (isReady_iff.1 (List.find?_some hf) d hd), fun m hm _ hd => ?_⟩
      have hr : g.isReady done m := isReady_iff.2 fun d hd' => by simpa using hd d hd'
      rcases hs.eq_or_lt hf hm hr with rfl | hlt
      exacts [le_rfl, hlt.le]
  | cons b before ih =>
    cases hf : todo.find? (g.isReady done) with
    | none => simp [orderFrom_eq_nil hf] at h
    | some k =>
      rw [orderFrom_eq_cons hf, List.cons_append, List.cons.injEq] at h
      obtain ⟨rfl, h⟩ := h
      -- The rest of the order counts `k` as done and not as listed before.
      have move (d : ν) : d ∈ before ∨ d ∈ k :: done ↔ d ∈ k :: before ∨ d ∈ done := by
        simp only [List.mem_cons]
        tauto
      obtain ⟨hdeps, hleast⟩ := ih (hs.eraseP _) h
      refine ⟨fun d hd => (move d).1 (hdeps d hd), fun m hm hb hd => ?_⟩
      obtain ⟨hk, hb⟩ := not_or.1 (mt List.mem_cons.2 hb)
      have hm := (List.mem_cons.1 ((perm_eraseP hf).symm.subset hm)).resolve_left hk
      exact hleast m hm hb fun d hd' => (move d).2 (hd d hd')

/-- No list that follows the dependencies of the names to do is less than the order. -/
theorem orderFrom_le {other : List ν} (hs : g.IsPlaced todo) (hp : other.Perm todo)
    (hf : g.Follows done other) (hg : ∀ n, g.Grounded n) (hc : g.IsClosed done todo) :
    g.orderFrom done todo = other ∨
      List.Lex (fun n m => g.place n < g.place m) (g.orderFrom done todo) other := by
  induction other generalizing done todo with
  | nil => exact .inl (((perm_orderFrom hg hc).trans hp.symm).eq_nil)
  | cons m rest ih =>
    have hm : m ∈ todo := hp.subset List.mem_cons_self
    have hr : g.isReady done m := isReady_iff.2 hf.1
    cases h : todo.find? (g.isReady done) with
    | none => exact absurd hr (List.find?_eq_none.1 h m hm)
    | some n =>
      rw [orderFrom_eq_cons h]
      rcases hs.eq_or_lt h hm hr with rfl | hlt
      · have hp := (hp.trans (perm_eraseP h).symm).cons_inv
        rcases ih (hs.eraseP _) hp hf.2 (hc.step h) with he | hlt
        exacts [.inl (by rw [he]), .inr (.cons hlt)]
      · exact .inr (.rel hlt)

/-! ### The order of a graph -/

theorem isClosed_nodes (g : Graph ν) : g.IsClosed [] g.nodes :=
  fun _ _ _ hd => .inr (Edge.mem_nodes hd)

theorem IsSchedule.perm (h : g.IsSchedule order) : order.Perm g.nodes :=
  (List.perm_ext_iff_of_nodup h.nodup (nodup_nodes g)).2 fun n => (h.mem_iff n).trans mem_nodes.symm

/-- The order of a graph without circles is its stable schedule. -/
theorem isStable_orderFrom (hg : ∀ n, g.Grounded n) : g.IsStable (g.orderFrom [] g.nodes) := by
  have hp := perm_orderFrom hg (isClosed_nodes g)
  have hs := isPlaced_nodes g
  refine ⟨⟨hp.nodup_iff.2 (nodup_nodes g), fun n => hp.mem_iff.trans mem_nodes, ?_⟩, ?_, ?_⟩
  · intro before n later h d hd
    exact ((choice_of_orderFrom hs h).1 d hd).resolve_right List.not_mem_nil
  · intro before n later h m hm hb hd
    exact (choice_of_orderFrom hs h).2 m hm hb fun d hd' => .inl (hd d hd')
  · exact fun other ho => orderFrom_le hs ho.perm ho.follows hg (isClosed_nodes g)

theorem order_eq_ok_iff : g.order = .ok order ↔ g.IsAcyclic ∧ g.orderFrom [] g.nodes = order := by
  rw [← findCycle_eq_none_iff, Graph.order, sort_eq_orderFrom]
  cases g.findCycle with
  | none => simp
  | some cycle => simp

/-- An order that was found is a schedule. -/
theorem isSchedule_of_order (h : g.order = .ok order) : g.IsSchedule order := by
  obtain ⟨ha, rfl⟩ := order_eq_ok_iff.1 h
  exact (isStable_orderFrom (grounded_of_findCycle (findCycle_eq_none_iff.2 ha))).toIsSchedule

end Lawful

/-- A graph without circles is ordered stably and as a whole, and one with a circle is
    not ordered at all. -/
theorem order_stable_or_circular (g : Graph String) :
    (g.IsAcyclic ∧ ∃ order, g.order = .ok order ∧ g.IsStable order) ∨
      (¬g.IsAcyclic ∧ ∃ cycle, g.order = .error cycle) := by
  cases hc : g.findCycle with
  | none =>
    refine .inl ⟨findCycle_eq_none_iff.1 hc, g.orderFrom [] g.nodes, ?_, ?_⟩
    · rw [order, hc, sort_eq_orderFrom]
    · exact isStable_orderFrom (grounded_of_findCycle hc)
  | some cycle =>
    refine .inr ⟨fun ha => ?_, cycle, by rw [order, hc]⟩
    rw [findCycle_eq_none_iff.2 ha] at hc
    cases hc

end Graph

end ControlBreak
