import ControlBreak.Proofs.Dependency.Reachability

/-!
# Counting down

A name is ready when all of its dependencies are done. The sort does not ask for them again: it
counts for each name how many are left, and when a name is done, those that wait for it have one
less. What it holds is told by these counts alone, by what is done and by what is to do: the
names that are ready are those with no dependency left, in their places, and the others wait.

So the sort makes the choices that one would make without counts: always the first name to do
of which all dependencies are done.

* `release_waiting`, `release_ready`, `foldl_release`: what is held when names have one
  dependency less;
* `left_cons`: the names of which this is true, with one more name done;
* `sortFrom_eq_orderFrom`, `sort_eq_orderFrom`: the sort makes the choices of `orderFrom`.
-/

namespace ControlBreak

namespace Graph

variable {ν : Type} {todo : List ν} {n : ν}

/-- What the first member with a property, and its removal, do to a list. -/
theorem exists_of_find? {p : ν → Bool} {names : List ν} {n : ν} (h : names.find? p = some n) :
    ∃ l₁ l₂, names = l₁ ++ n :: l₂ ∧ names.eraseP p = l₁ ++ l₂ ∧ ∀ m ∈ l₁, ¬p m := by
  obtain ⟨hn, l₁, l₂, rfl, hl⟩ := List.find?_eq_some_iff_append.1 h
  have hl : ∀ m ∈ l₁, ¬p m := fun m hm => by simpa using hl m hm
  refine ⟨l₁, l₂, rfl, ?_, hl⟩
  rw [List.eraseP_append_right _ hl, List.eraseP_cons_of_pos hn]

theorem perm_eraseP {p : ν → Bool} {names : List ν} {n : ν} (h : names.find? p = some n) :
    (n :: names.eraseP p).Perm names := by
  obtain ⟨l₁, l₂, rfl, he, -⟩ := exists_of_find? h
  rw [he]
  exact List.perm_middle.symm

/-! ### The counts -/

/-- What is held when names are to do that have so many dependencies left. -/
def countdownAt (todo : List ν) (left : ν → Nat) : Countdown ν where
  waiting := (todo.filter fun n => left n != 0).map fun n => (n, left n)
  ready := todo.filter fun n => left n == 0

/-- The first name without a dependency left is taken from those that are ready. -/
theorem countdownAt_eq_cons {left : ν → Nat} (h : todo.find? (fun n => left n == 0) = some n) :
    countdownAt todo left =
      ⟨(countdownAt (todo.eraseP fun n => left n == 0) left).waiting,
        n :: (countdownAt (todo.eraseP fun n => left n == 0) left).ready⟩ := by
  have hn : left n = 0 := by simpa using List.find?_some h
  obtain ⟨l₁, l₂, rfl, he, hl⟩ := exists_of_find? h
  have hfirst : l₁.filter (fun n => left n == 0) = [] := List.filter_eq_nil_iff.2 hl
  rw [he, countdownAt, countdownAt]
  simp [List.filter_append, hfirst, hn]

variable [BEq ν] {g : Graph ν} {done ready before after : List ν} {m d : ν}

/-- The names stand in the order of their places. -/
def IsPlaced (g : Graph ν) (todo : List ν) : Prop :=
  todo.Pairwise fun n m => g.place n < g.place m

theorem IsPlaced.nodup (h : g.IsPlaced todo) : todo.Nodup :=
  List.Pairwise.imp (fun hlt => ne_of_apply_ne g.place (Nat.ne_of_lt hlt)) h

theorem IsPlaced.eraseP (h : g.IsPlaced todo) (p : ν → Bool) : g.IsPlaced (todo.eraseP p) :=
  List.Pairwise.sublist List.eraseP_sublist h

/-! ### The choices -/

/-- Whether all dependencies of a name are done. -/
def isReady (g : Graph ν) (done : List ν) (n : ν) : Bool :=
  (g.deps n).all done.contains

/-- The names to do, each after its dependencies: always the first one that has
    all of them done. -/
def orderFrom (g : Graph ν) (done todo : List ν) : List ν :=
  match _h : todo.find? (g.isReady done) with
  | none => []
  | some n => n :: orderFrom g (n :: done) (todo.eraseP (g.isReady done))
  termination_by todo.length
  decreasing_by
    have hm := List.mem_of_find?_eq_some _h
    have := List.length_eraseP_of_mem hm (List.find?_some _h)
    have := List.length_pos_of_mem hm
    omega

theorem orderFrom_eq_nil (h : todo.find? (g.isReady done) = none) : g.orderFrom done todo = [] := by
  rw [orderFrom]
  split
  · rfl
  · rename_i h'
    rw [h] at h'
    cases h'

theorem orderFrom_eq_cons (h : todo.find? (g.isReady done) = some n) :
    g.orderFrom done todo = n :: g.orderFrom (n :: done) (todo.eraseP (g.isReady done)) := by
  rw [orderFrom]
  split
  · rename_i h'
    rw [h] at h'
    cases h'
  · rename_i h'
    rw [h] at h'
    cases h'
    rfl

theorem sortFrom_eq_nil {awaited : Graph ν} {c : Countdown ν} (h : c.ready = []) :
    g.sortFrom awaited c = [] := by
  rw [sortFrom]
  split
  · rfl
  · rename_i h'
    rw [h] at h'
    cases h'

theorem sortFrom_cons {awaited : Graph ν} {waiting : List (ν × Nat)} :
    g.sortFrom awaited ⟨waiting, n :: ready⟩ =
      n :: g.sortFrom awaited ((awaited.deps n).foldl g.release ⟨waiting, ready⟩) := by
  rw [sortFrom]

/-! ### One dependency less -/

/-- A name goes between those before it and those after it. -/
theorem enqueue_append (hb : ∀ m ∈ before, g.place m < g.place n)
    (ha : ∀ m ∈ after, g.place n < g.place m) :
    g.enqueue n (before ++ after) = before ++ n :: after := by
  induction before with
  | nil =>
    cases after with
    | nil => rfl
    | cons m rest =>
      rw [List.nil_append, enqueue, if_pos (ha m List.mem_cons_self), List.nil_append]
  | cons m rest ih =>
    obtain ⟨hm, hb⟩ := List.forall_mem_cons.1 hb
    rw [List.cons_append, enqueue, if_neg (Nat.lt_asymm hm), ih hb, List.cons_append]

/-- A name that is to do is added to those with a property, among which it was not. -/
theorem enqueue_filter {p q : ν → Bool} (hs : g.IsPlaced todo) (hm : m ∈ todo) (hp : ¬p m)
    (hq : q m) (h : ∀ n, n ≠ m → p n = q n) :
    g.enqueue m (todo.filter p) = todo.filter q := by
  obtain ⟨before, after, rfl⟩ := List.append_of_mem hm
  obtain ⟨-, hafter, hbefore⟩ := List.pairwise_append.1 hs
  have hb : ∀ n ∈ before, g.place n < g.place m := fun n hn => hbefore n hn m List.mem_cons_self
  have ha : ∀ n ∈ after, g.place m < g.place n := (List.pairwise_cons.1 hafter).1
  have hsame {names : List ν} (hne : ∀ n ∈ names, n ≠ m) : names.filter p = names.filter q :=
    List.filter_congr fun n hn => h n (hne n hn)
  rw [List.filter_append, List.filter_cons_of_neg hp, List.filter_append,
    List.filter_cons_of_pos hq, enqueue_append (fun n hn => hb n (List.mem_filter.1 hn).1)
      fun n hn => ha n (List.mem_filter.1 hn).1]
  rw [hsame fun n hn => by rintro rfl; exact Nat.lt_irrefl _ (hb _ hn),
    hsame fun n hn => by rintro rfl; exact Nat.lt_irrefl _ (ha _ hn)]

/-- The dependencies left when some names have one less. -/
def fewer (count : ν → Nat) (names : List ν) (n : ν) : Nat :=
  if names.contains n then count n - 1 else count n

section Lawful

variable [LawfulBEq ν] {count : ν → Nat} {names : List ν}

theorem fewer_singleton_self : fewer count [m] m = count m - 1 := by
  simp [fewer]

theorem fewer_singleton_of_ne (h : n ≠ m) : fewer count [m] n = count n := by
  simp [fewer, h]

theorem fewer_cons (h : m ∉ names) : fewer (fewer count [m]) names = fewer count (m :: names) := by
  funext n
  by_cases hn : n = m
  · subst hn
    simp [fewer, h]
  · simp [fewer, hn]

/-- The counts with one less for a name, if it waits. -/
theorem counts_fewer : ((countdownAt todo count).waiting.map fun e =>
    if e.1 == m then (e.1, e.2 - 1) else e) =
      (todo.filter fun n => count n != 0).map fun n => (n, fewer count [m] n) := by
  rw [countdownAt, List.map_map]
  refine List.map_congr_left fun n _ => ?_
  by_cases hn : n = m
  · simp [hn, fewer_singleton_self]
  · simp [hn, fewer_singleton_of_ne hn]

theorem release_waiting (g : Graph ν) : (g.release (countdownAt todo count) m).waiting =
    (countdownAt todo (fewer count [m])).waiting := by
  dsimp only [release]
  rw [counts_fewer, List.filter_map, List.filter_filter]
  refine congrArg (List.map _) ?_
  refine List.filter_congr fun n _ => ?_
  by_cases hn : n = m
  · subst hn
    have hpos : count n - 1 ≠ 0 → count n ≠ 0 := by omega
    simpa [fewer_singleton_self] using hpos
  · simp [fewer_singleton_of_ne hn]

theorem release_ready (hs : g.IsPlaced todo) (hm : m ∈ todo) (hcount : count m ≠ 0) :
    (g.release (countdownAt todo count) m).ready = (countdownAt todo (fewer count [m])).ready := by
  have hany : (((todo.filter fun n => count n != 0).map fun n => (n, fewer count [m] n)).any
      fun e => e.1 == m && e.2 == 0) = true ↔ fewer count [m] m = 0 := by
    rw [List.any_map, List.any_filter, List.any_eq_true]
    constructor
    · rintro ⟨n, -, hn⟩
      simp only [Function.comp, Bool.and_eq_true, beq_iff_eq] at hn
      exact hn.2.1 ▸ hn.2.2
    · exact fun hzero => ⟨m, hm, by simp [hcount, hzero]⟩
  dsimp only [release]
  rw [counts_fewer]
  by_cases hzero : fewer count [m] m = 0
  · rw [if_pos (hany.2 hzero)]
    exact enqueue_filter hs hm (by simpa using hcount) (by simpa using hzero)
      fun n hn => by rw [fewer_singleton_of_ne hn]
  · rw [if_neg (mt hany.1 hzero)]
    refine List.filter_congr fun n _ => ?_
    by_cases hn : n = m
    · simp [hn, hcount, hzero]
    · rw [fewer_singleton_of_ne hn]

/-- Names that wait have one dependency less, one after the other. -/
theorem foldl_release (hs : g.IsPlaced todo) (hn : names.Nodup)
    (h : ∀ m ∈ names, m ∈ todo ∧ count m ≠ 0) :
    names.foldl g.release (countdownAt todo count) = countdownAt todo (fewer count names) := by
  induction names generalizing count with
  | nil => rfl
  | cons m rest ih =>
    obtain ⟨hm, hrest⟩ := List.nodup_cons.1 hn
    obtain ⟨⟨hmt, hcount⟩, h⟩ := List.forall_mem_cons.1 h
    have hone : g.release (countdownAt todo count) m = countdownAt todo (fewer count [m]) :=
      congrArg₂ Countdown.mk (release_waiting g) (release_ready hs hmt hcount)
    rw [List.foldl_cons, hone, ih hrest fun n hn => ?_, fewer_cons hm]
    rw [fewer_singleton_of_ne (ne_of_mem_of_not_mem hn hm)]
    exact h n hn

/-! ### The dependencies that are not done -/

theorem isReady_iff : g.isReady done n = true ↔ ∀ d ∈ g.deps n, d ∈ done := by
  simp [isReady]

theorem isReady_cons (h : g.isReady done n) : g.isReady (d :: done) n :=
  isReady_iff.2 fun k hk => List.mem_cons_of_mem _ (isReady_iff.1 h k hk)

/-- For each name, those wait that have it among their dependencies. -/
theorem deps_awaited (g : Graph ν) (d : ν) :
    g.awaited.deps d = g.nodes.filter fun n => (g.deps n).contains d := by
  rw [awaited, deps_reversed, List.flatMap_map]
  induction g.nodes with
  | nil => rfl
  | cons n rest ih =>
    have hfirst : (firsts (g.deps n)).filter (· == d) =
        if (g.deps n).contains d then [d] else [] := by
      rw [List.filter_beq, (nodup_firsts _).count]
      simp [apply_ite (List.replicate · d)]
    rw [List.flatMap_cons, ih, List.filter_cons, hfirst]
    split <;> rfl

theorem edge_awaited : g.awaited.Edge d n ↔ g.Edge n d := by
  rw [Edge, deps_awaited, List.mem_filter, and_iff_right_iff_imp.2, List.contains_iff_mem, Edge]
  exact fun h => mem_nodes.2 (.inl (Edge.mem_keys (List.contains_iff_mem.1 h)))

theorem nodup_deps_awaited (g : Graph ν) (d : ν) : (g.awaited.deps d).Nodup := by
  rw [deps_awaited]
  exact (nodup_nodes g).filter _

/-- How many dependencies of a name are not done. -/
def left (g : Graph ν) (done : List ν) (n : ν) : Nat :=
  ((firsts (g.deps n)).filter fun d => !done.contains d).length

theorem left_eq_zero_iff : g.left done n = 0 ↔ g.isReady done n = true := by
  rw [left, List.length_eq_zero_iff, List.filter_eq_nil_iff, isReady_iff]
  simp

theorem isReady_eq (g : Graph ν) (done : List ν) :
    g.isReady done = fun n => g.left done n == 0 := by
  funext n
  rw [Bool.eq_iff_iff, beq_iff_eq, left_eq_zero_iff]

/-- With one more name done, those that wait for it have one dependency less. -/
theorem left_cons (hd : d ∉ done) :
    g.left (d :: done) = fewer (g.left done) (g.awaited.deps d) := by
  funext n
  have hn : ((firsts (g.deps n)).filter fun d => !done.contains d).Nodup :=
    (nodup_firsts _).filter _
  have herase : (firsts (g.deps n)).filter (fun m => !(d :: done).contains m) =
      ((firsts (g.deps n)).filter fun m => !done.contains m).erase d := by
    rw [hn.erase_eq_filter, List.filter_filter]
    refine List.filter_congr fun m _ => ?_
    simp [bne]
  rw [left, herase, List.length_erase, fewer]
  refine if_congr ?_ rfl rfl
  have hwaits : n ∈ g.awaited.deps d ↔ d ∈ g.deps n := edge_awaited
  simp [hd, hwaits]

theorem countdown_eq (g : Graph ν) : g.countdown = countdownAt g.nodes (g.left []) := by
  have hleft (n : ν) : (firsts (g.deps n)).length = g.left [] n := by simp [left]
  simp only [countdown, countdownAt, hleft, List.filter_map, List.map_map]
  congr 1
  exact List.map_id _

/-! ### The sort -/

theorem isPlaced_nodes (g : Graph ν) : g.IsPlaced g.nodes := by
  rw [IsPlaced, List.pairwise_iff_getElem]
  intro i j hi hj hij
  rw [place, place, (nodup_nodes g).idxOf_getElem, (nodup_nodes g).idxOf_getElem]
  exact hij

/-- By induction on the choices: the counts tell which names are ready. What is not to do has
    all of its dependencies done, so all that waits is to do. -/
theorem sortFrom_eq_orderFrom (hs : g.IsPlaced todo) (hd : ∀ n ∈ todo, n ∉ done)
    (hc : ∀ n ∈ g.nodes, n ∈ todo ∨ g.isReady done n) :
    g.sortFrom g.awaited (countdownAt todo (g.left done)) = g.orderFrom done todo := by
  induction done, todo using orderFrom.induct g with
  | case1 done todo h =>
    rw [orderFrom_eq_nil h, sortFrom_eq_nil]
    rw [isReady_eq] at h
    exact List.filter_eq_nil_iff.2 (List.find?_eq_none.1 h)
  | case2 done todo n h ih =>
    have hn : g.isReady done n := List.find?_some h
    have hnd : n ∉ done := hd n (List.mem_of_find?_eq_some h)
    have hperm : (n :: todo.eraseP (g.isReady done)).Perm todo := perm_eraseP h
    obtain ⟨hrest, -⟩ := List.nodup_cons.1 (hperm.nodup_iff.2 hs.nodup)
    have htodo {m : ν} (hm : m ∈ todo) (hne : m ≠ n) : m ∈ todo.eraseP (g.isReady done) :=
      (List.mem_cons.1 (hperm.symm.subset hm)).resolve_left hne
    have hwait : ∀ m ∈ g.awaited.deps n,
        m ∈ todo.eraseP (g.isReady done) ∧ g.left done m ≠ 0 := fun m hm => by
      have hedge : g.Edge m n := edge_awaited.1 hm
      have hmr : ¬g.isReady done m := fun hmr => hnd (isReady_iff.1 hmr n hedge)
      have hmt : m ∈ todo := (hc m (mem_nodes.2 (.inl hedge.mem_keys))).resolve_right hmr
      exact ⟨htodo hmt fun he => hmr (he ▸ hn), mt left_eq_zero_iff.1 hmr⟩
    rw [orderFrom_eq_cons h, countdownAt_eq_cons (isReady_eq g done ▸ h), sortFrom_cons,
      ← isReady_eq, foldl_release (hs.eraseP _) (nodup_deps_awaited g n) hwait, ← left_cons hnd,
      ih (hs.eraseP _)]
    · intro m hm
      rw [List.mem_cons, not_or]
      exact ⟨ne_of_mem_of_not_mem hm hrest, hd m (List.mem_of_mem_eraseP hm)⟩
    · intro m hm
      by_cases hne : m = n
      · exact .inr (isReady_cons (hne ▸ hn))
      · exact (hc m hm).imp (htodo · hne) isReady_cons

theorem sort_eq_orderFrom (g : Graph ν) : g.sort = g.orderFrom [] g.nodes := by
  rw [sort, countdown_eq]
  exact sortFrom_eq_orderFrom (isPlaced_nodes g) (fun _ _ => List.not_mem_nil) fun _ hn => .inl hn

end Lawful

end Graph

end ControlBreak
