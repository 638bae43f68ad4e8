import ControlBreak.Proofs.Groups.Runs

/-!
# Summaries as a partition

Records may come in any order, and still each goes to the one summary of the records that share
all its keys. The summaries stand in the order in which their keys first came, and no record is
lost or counted twice.

Which records share their keys is told by an equivalence of the places in the stream, as in
`ComparedBy`, but of the keys as a whole.

* `firstPlaces`: the places whose keys did not come before;
* `Gathers`: a summary is that of all records with the keys at a place;
* `forall₂_gathers_add`: one more record keeps this, and so does every stream
  (`summarize_gathers`).
-/

namespace ControlBreak

variable {r : Registry} {groups : List GroupDefinition} {same : ℕ → ℕ → Prop} {stream : List Value}
  {keys : List (List Value)} {n p q : ℕ}

/-! ### Places of keys -/

/-- The keys of each record of a stream, which may be keys of summaries, and an equivalence of the
    places in the stream that tells which of them are the same. -/
structure KeyedBy (r : Registry) (groups : List GroupDefinition) (same : ℕ → ℕ → Prop)
    (stream : List Value) (keys : List (List Value)) : Prop where
  evaluate : List.Forall₂ (fun record ks => Scope.evaluateKeys r record groups = .ok ks) stream keys
  hashable : ∀ ks ∈ keys, Value.allHashable ks = true
  equivalence : Equivalence same
  recurs : ∀ p q olds news, p < q → keys[p]? = some olds → keys[q]? = some news →
    (Value.recurAll olds news = true ↔ same p q)

/-- The places whose keys did not come before, in a stream of a given length. -/
def firstPlaces (same : ℕ → ℕ → Prop) [DecidableRel same] (n : ℕ) : List ℕ :=
  (List.range n).filter fun q => ∀ p < q, ¬same p q

/-- The records whose keys are those at a place. -/
def recordsLike {α : Type} (same : ℕ → ℕ → Prop) [DecidableRel same] (records : List α) (q : ℕ) :
    List α :=
  (records.zipIdx.filter fun e => same q e.2).map (·.1)

section Places

variable [DecidableRel same]

theorem mem_firstPlaces : q ∈ firstPlaces same n ↔ q < n ∧ ∀ p < q, ¬same p q := by
  rw [firstPlaces, List.mem_filter, List.mem_range, decide_eq_true_eq]

theorem firstPlaces_succ (n : ℕ) : firstPlaces same (n + 1) =
    firstPlaces same n ++ if ∀ p < n, ¬same p n then [n] else [] := by
  rw [firstPlaces, List.range_succ, List.filter_append, firstPlaces, List.filter_cons,
    List.filter_nil]
  simp only [decide_eq_true_eq]

/-- All keys came first at some place. -/
theorem exists_mem_firstPlaces (he : Equivalence same) (hp : p < n) :
    ∃ q ∈ firstPlaces same n, same q p := by
  have hex : ∃ q, same q p := ⟨p, he.refl p⟩
  have hfirst : same (Nat.find hex) p := Nat.find_spec hex
  refine ⟨Nat.find hex, mem_firstPlaces.2 ⟨?_, fun q hq hsame => ?_⟩, hfirst⟩
  · exact (Nat.find_min' hex (he.refl p)).trans_lt hp
  · exact Nat.find_min hex hq (he.trans hsame hfirst)

theorem eq_of_mem_firstPlaces (he : Equivalence same) (hp : p ∈ firstPlaces same n)
    (hq : q ∈ firstPlaces same n) (h : same p q) : p = q := by
  rcases lt_trichotomy p q with hlt | heq | hlt
  · exact absurd h ((mem_firstPlaces.1 hq).2 p hlt)
  · exact heq
  · exact absurd (he.symm h) ((mem_firstPlaces.1 hp).2 q hlt)

theorem recordsLike_append {α : Type} (records : List α) (record : α) (q : ℕ) :
    recordsLike same (records ++ [record]) q =
      recordsLike same records q ++ if same q records.length then [record] else [] := by
  rw [recordsLike, List.zipIdx_append, List.filter_append, List.map_append, recordsLike,
    List.zipIdx_singleton, List.filter_singleton]
  split <;> simp_all

end Places

/-! ### Pairs of lists -/

section Forall₂

variable {α β : Type} {R S : α → β → Prop} {as : List α} {bs before after : List β} {b : β}

theorem forall₂_imp_of_mem (h : List.Forall₂ R as bs) (himp : ∀ a, ∀ b ∈ bs, R a b → S a b) :
    List.Forall₂ S as bs := by
  rw [List.forall₂_iff_zip] at h ⊢
  exact ⟨h.1, fun hmem => himp _ _ (List.of_mem_zip hmem).2 (h.2 hmem)⟩

theorem forall₂_append_cons (h : List.Forall₂ R as (before ++ b :: after)) :
    ∃ as₁ a as₂, as = as₁ ++ a :: as₂ ∧ List.Forall₂ R as₁ before ∧ R a b ∧
      List.Forall₂ R as₂ after := by
  have hbefore := List.forall₂_take_append as before (b :: after) h
  have hafter := List.forall₂_drop_append as before (b :: after) h
  obtain ⟨a, as₂, ha, has₂, heq⟩ := List.forall₂_cons_right_iff.1 hafter
  exact ⟨_, a, as₂, by rw [← heq, List.take_append_drop], hbefore, ha, has₂⟩

theorem pairwise_of_forall₂ {T : α → α → Prop} {U : β → β → Prop} (h : List.Forall₂ R as bs)
    (hbs : bs.Pairwise U) (himp : ∀ a a' b b', R a b → R a' b' → U b b' → T a a') :
    as.Pairwise T := by
  induction h with
  | nil => exact .nil
  | @cons a b as bs hab hrest ih =>
    obtain ⟨hb, hbs⟩ := List.pairwise_cons.1 hbs
    obtain ⟨ha, -⟩ := (List.forall₂_and_left (p := T a) _ _).1
      (forall₂_imp_of_mem (S := fun a' b' => T a a' ∧ R a' b') hrest fun a' b' hmem hr =>
        ⟨himp a a' b b' hab hr (hb b' hmem), hr⟩)
    exact .cons ha (ih hbs)

end Forall₂

/-! ### Summaries of all records with the same keys -/

namespace KeyedBy

variable {record : Value} {ks : List Value}

/-- The last record has the last keys, and those before it have the others. -/
theorem exists_append (h : KeyedBy r groups same (stream ++ [record]) keys) :
    ∃ before ks, keys = before ++ [ks] ∧ Scope.evaluateKeys r record groups = .ok ks ∧
      KeyedBy r groups same stream before := by
  obtain ⟨before, ks, after, rfl, hbefore, hks, hafter⟩ := forall₂_append_cons h.evaluate.flip
  obtain rfl := List.forall₂_nil_right_iff.1 hafter
  refine ⟨before, ks, rfl, hks, hbefore.flip, ?_, h.equivalence, ?_⟩
  · exact fun ks hks => h.hashable ks (List.mem_append_left _ hks)
  · intro p q olds news hpq hp hq
    refine h.recurs p q olds news hpq ?_ ?_
    · rwa [List.getElem?_append_left (List.getElem?_eq_some_iff.1 hp).1]
    · rwa [List.getElem?_append_left (List.getElem?_eq_some_iff.1 hq).1]

end KeyedBy

namespace Groups

variable {ρ : Type} {g : Groups} {records : List (Value × ρ)} {record : Value × ρ}
  {summaries : List (Summary ρ)} {s : Summary ρ} {ks : List Value} [DecidableRel same]

/-- A summary is that of all records with the keys at a place, where they came first: it has these
    keys, and reports the values of the record there. -/
structure Gathers (r : Registry) (g : Groups) (same : ℕ → ℕ → Prop) [DecidableRel same]
    (records : List (Value × ρ)) (keys : List (List Value)) (s : Summary ρ) (q : ℕ) : Prop where
  keys : keys[q]? = some s.keys
  values : records[q]?.map (g.valuesOf r ·.1) = some (.ok s.values)
  summarizes : Summarizes s (recordsLike same records q)

theorem Summarizes.eq_of_run {run : List (Value × ρ)} {first last : ρ} (h : Summarizes s run)
    (hfirst : run.head?.map (·.2) = some first) (hlast : run.getLast?.map (·.2) = some last) :
    (s.count, s.first, s.last) = (run.length, first, last) := by
  rw [h.count, Option.some.inj (h.first.symm.trans hfirst),
    Option.some.inj (h.last.symm.trans hlast)]

theorem Gathers.lt_length (h : Gathers r g same records keys s q) : q < records.length := by
  obtain ⟨e, he, -⟩ := Option.map_eq_some_iff.1 h.values
  exact (List.getElem?_eq_some_iff.1 he).1

theorem Gathers.append (h : Gathers r g same records keys s q) (hsame : ¬same q records.length) :
    Gathers r g same (records ++ [record]) (keys ++ [ks]) s q where
  keys := by rw [List.getElem?_append_left (List.getElem?_eq_some_iff.1 h.keys).1, h.keys]
  values := by rw [List.getElem?_append_left h.lt_length, h.values]
  summarizes := by
    rw [recordsLike_append, if_neg hsame, List.append_nil]
    exact h.summarizes

/-- A record with the keys of a summary goes to it. -/
theorem Gathers.append_of_same (h : Gathers r g same records keys s q)
    (hsame : same q records.length) : Gathers r g same (records ++ [record]) (keys ++ [ks])
      { s with count := s.count + 1, last := record.2 } q where
  keys := by rw [List.getElem?_append_left (List.getElem?_eq_some_iff.1 h.keys).1, h.keys]
  values := by rw [List.getElem?_append_left h.lt_length, h.values]
  summarizes := by
    rw [recordsLike_append, if_pos hsame]
    exact h.summarizes.append record

/-- A record whose keys did not come before starts a summary. -/
theorem gathers_new (he : Equivalence same) (hlength : keys.length = records.length)
    (hks : Scope.evaluateKeys r record.1 g.scope.groups = .ok ks)
    (hnew : ∀ p < records.length, ¬same p records.length) :
    Gathers r g same (records ++ [record]) (keys ++ [ks])
      ⟨ks, 1, record.2, record.2, Scope.levelValues g.scope.groups ks⟩ records.length where
  keys := by simp [← hlength]
  values := by simp [valuesOf, hks, Except.map]
  summarizes := by
    have hnone : recordsLike same records records.length = [] := by
      rw [recordsLike, List.map_eq_nil_iff, List.filter_eq_nil_iff]
      intro e hmem
      have hlt := List.snd_lt_of_mem_zipIdx hmem
      simpa using fun hsame => hnew e.2 (by simpa using hlt) (he.symm hsame)
    rw [recordsLike_append, hnone, if_pos (he.refl _)]
    exact ⟨rfl, rfl, rfl⟩

/-- A record goes to a summary if and only if it has its keys. -/
theorem Gathers.recurAll_iff (h : Gathers r g same records keys s q)
    (hk : KeyedBy r g.scope.groups same ((records ++ [record]).map (·.1)) (keys ++ [ks])) :
    Value.recurAll s.keys ks = true ↔ same q records.length := by
  have hlength : keys.length = records.length := by simpa using hk.evaluate.length_eq.symm
  refine hk.recurs q records.length s.keys ks h.lt_length ?_ (by simp [← hlength])
  rw [List.getElem?_append_left (List.getElem?_eq_some_iff.1 h.keys).1, h.keys]

/-- Summaries of other keys are passed over. -/
theorem forall₂_gathers_append {places : List ℕ}
    (hk : KeyedBy r g.scope.groups same ((records ++ [record]).map (·.1)) (keys ++ [ks]))
    (h : List.Forall₂ (Gathers r g same records keys) summaries places)
    (hplaces : ∀ q ∈ places, ¬same q records.length) :
    (∀ s ∈ summaries, Value.recurAll s.keys ks = false) ∧
      List.Forall₂ (Gathers r g same (records ++ [record]) (keys ++ [ks])) summaries places := by
  refine (List.forall₂_and_left _ _).1 (forall₂_imp_of_mem h fun s q hq hs => ⟨?_, ?_⟩)
  · rw [← Bool.not_eq_true, hs.recurAll_iff hk]
    exact hplaces q hq
  · exact hs.append (hplaces q hq)

/-- A record goes to the summary of its keys, or starts one if they did not come before. -/
theorem forall₂_gathers_add
    (hk : KeyedBy r g.scope.groups same ((records ++ [record]).map (·.1)) (keys ++ [ks]))
    (hks : Scope.evaluateKeys r record.1 g.scope.groups = .ok ks)
    (h : List.Forall₂ (Gathers r g same records keys) summaries
      (firstPlaces same records.length)) :
    List.Forall₂ (Gathers r g same (records ++ [record]) (keys ++ [ks]))
      (addToSummaries g.scope.groups ks record.2 summaries)
      (firstPlaces same (records ++ [record]).length) := by
  have he := hk.equivalence
  rw [List.length_append, List.length_singleton, firstPlaces_succ]
  by_cases hnew : ∀ p < records.length, ¬same p records.length
  · obtain ⟨hpass, hrest⟩ := forall₂_gathers_append hk h fun q hq =>
      hnew q (mem_firstPlaces.1 hq).1
    have hlength : keys.length = records.length := by simpa using hk.evaluate.length_eq.symm
    rw [if_pos hnew, ← List.append_nil summaries, addToSummaries_append hpass]
    exact List.rel_append hrest (.cons (gathers_new he hlength hks hnew) .nil)
  · rw [if_neg hnew, List.append_nil]
    push Not at hnew
    obtain ⟨p, hp, hsame⟩ := hnew
    obtain ⟨q, hq, hqp⟩ := exists_mem_firstPlaces he hp
    have hsame : same q records.length := he.trans hqp hsame
    have hnodup : (firstPlaces same records.length).Nodup := List.nodup_range.filter _
    obtain ⟨before, after, hsplit⟩ := List.append_of_mem hq
    -- Of the first places, only `q` has the keys of the record.
    have hothers : ∀ q' ∈ before ++ after, ¬same q' records.length := by
      intro q' hq' hsame'
      rw [hsplit, List.nodup_middle, List.nodup_cons] at hnodup
      have hmem : q' ∈ firstPlaces same records.length := by
        rw [hsplit, List.mem_append, List.mem_cons]
        rcases List.mem_append.1 hq' with hq' | hq'
        exacts [.inl hq', .inr (.inr hq')]
      have heq := eq_of_mem_firstPlaces he hmem hq (he.trans hsame' (he.symm hsame))
      exact hnodup.1 (heq ▸ hq')
    rw [hsplit] at h ⊢
    obtain ⟨earlier, s, later, rfl, hearlier, hs, hlater⟩ := forall₂_append_cons h
    obtain ⟨hpass, hearlier⟩ := forall₂_gathers_append hk hearlier fun q' hq' =>
      hothers q' (List.mem_append_left _ hq')
    obtain ⟨-, hlater⟩ := forall₂_gathers_append hk hlater fun q' hq' =>
      hothers q' (List.mem_append_right _ hq')
    rw [addToSummaries_append hpass, addToSummaries, if_pos ((hs.recurAll_iff hk).2 hsame)]
    exact List.rel_append hearlier (.cons (hs.append_of_same hsame) hlater)

/-! ### Whole streams -/

theorem summarize_append_eq_ok {summaries' : List (Summary ρ)} :
    g.summarize r (records ++ [record]) = .ok summaries' ↔ ∃ summaries,
      g.summarize r records = .ok summaries ∧
        summarizeStep r g.scope.groups summaries record = .ok summaries' := by
  rw [summarize_eq_foldlM, List.foldlM_append, Host.bind_eq_ok]
  simp only [List.foldlM_cons, List.foldlM_nil, bind_pure]
  rfl

/-- Each record is counted once, by one summary. -/
theorem sum_count_addToSummaries (groups : List GroupDefinition) (ks : List Value) (x : ρ)
    (summaries : List (Summary ρ)) :
    ((addToSummaries groups ks x summaries).map (·.count)).sum =
      (summaries.map (·.count)).sum + 1 := by
  induction summaries with
  | nil => rfl
  | cons s summaries ih =>
    rw [addToSummaries]
    split
    · simp only [List.map_cons, List.sum_cons]
      omega
    · simp only [List.map_cons, List.sum_cons, ih]
      omega

theorem sum_count_of_summarize (h : g.summarize r records = .ok summaries) :
    (summaries.map (·.count)).sum = records.length := by
  induction records using List.reverseRecOn generalizing summaries with
  | nil =>
    cases h
    rfl
  | append_singleton records record ih =>
    obtain ⟨before, hbefore, hstep⟩ := summarize_append_eq_ok.1 h
    obtain ⟨ks, -, -, rfl⟩ := summarizeStep_eq_ok.1 hstep
    rw [sum_count_addToSummaries, ih hbefore, List.length_append, List.length_singleton]

/-- Records with keys are summarized, by the first places of their keys. -/
theorem exists_forall₂_gathers (h : KeyedBy r g.scope.groups same (records.map (·.1)) keys) :
    ∃ summaries, g.summarize r records = .ok summaries ∧
      List.Forall₂ (Gathers r g same records keys) summaries (firstPlaces same records.length) := by
  induction records using List.reverseRecOn generalizing keys with
  | nil => exact ⟨[], rfl, .nil⟩
  | append_singleton records record ih =>
    have hmap : (records ++ [record]).map (·.1) = records.map (·.1) ++ [record.1] :=
      List.map_append
    obtain ⟨before, ks, rfl, hks, hbefore⟩ := (hmap ▸ h).exists_append
    obtain ⟨summaries, hsummaries, hgathers⟩ := ih hbefore
    refine ⟨_, summarize_append_eq_ok.2 ⟨summaries, hsummaries, ?_⟩,
      forall₂_gathers_add h hks hgathers⟩
    exact summarizeStep_eq_ok.2 ⟨ks, evaluateKeys_eq_ok.1 hks, h.hashable ks (by simp), rfl⟩

/-- The summaries of records in any order are those of their keys, in the order in which these
    first came. Each counts all records with its keys, tells which came first and which last, and
    reports the values of the first. -/
theorem summarize_gathers (h : KeyedBy r g.scope.groups same (records.map (·.1)) keys) :
    ∃ summaries, g.summarize r records = .ok summaries ∧
      List.Forall₂ (Gathers r g same records keys) summaries (firstPlaces same records.length) ∧
      (summaries.Pairwise fun s t => Value.recurAll s.keys t.keys = false) ∧
      (summaries.map (·.count)).sum = records.length := by
  obtain ⟨summaries, hsummaries, hgathers⟩ := exists_forall₂_gathers h
  refine ⟨summaries, hsummaries, hgathers, ?_, sum_count_of_summarize hsummaries⟩
  -- A later one of the first places has other keys.
  have hplaces : (firstPlaces same records.length).Pairwise fun p q => p < q ∧ ¬same p q := by
    refine (List.pairwise_lt_range.filter _).imp_of_mem fun {p q} _ hq hlt => ⟨hlt, ?_⟩
    exact (mem_firstPlaces.1 hq).2 p hlt
  refine pairwise_of_forall₂ hgathers hplaces fun s t p q hs ht ⟨hlt, hsame⟩ => ?_
  rwa [← Bool.not_eq_true, h.recurs p q s.keys t.keys hlt hs.keys ht.keys]

/-! ### Orders by rating -/

def byRating : GroupDefinition := ⟨"rating", 1, .fieldRef (.str "rating"), .ascending⟩

/-- The ratings of some orders: a number of different kinds, and a text in between. -/
def ratings : List Value :=
  [.int 1, .str "a", .bool true, .str "a", .num (.float (.finite false (2 ^ 52) (-52)))]

/-- The orders with these ratings, numbered. -/
def orders : List (Value × ℕ) :=
  (ratings.map fun rating => Value.dict [(.str "rating", rating)]).zipIdx

theorem keyedBy_orders : KeyedBy .empty (ofDefinitions [byRating]).scope.groups
    (fun p q => p % 2 = q % 2) (orders.map (·.1)) (ratings.map ([·])) := by
  have hgroups : (ofDefinitions [byRating]).scope.groups = [byRating] :=
    List.mergeSort_singleton byRating
  have hrecurs : ∀ p q : Fin 5, p < q → (Value.recurAll [ratings[p]] [ratings[q]] = true ↔
      (p : ℕ) % 2 = q % 2) := by
    decide +kernel
  rw [hgroups]
  refine ⟨Host.mapM_eq_ok.1 (by cbv), by decide, ⟨fun _ => rfl, Eq.symm, Eq.trans⟩, ?_⟩
  intro p q olds news hpq hp hq
  obtain ⟨hplt, rfl⟩ := List.getElem?_eq_some_iff.1 hp
  obtain ⟨hqlt, rfl⟩ := List.getElem?_eq_some_iff.1 hq
  rw [List.getElem_map, List.getElem_map]
  exact hrecurs ⟨p, hplt⟩ ⟨q, hqlt⟩ hpq

/-- The numbers, of three kinds, are one rating, and the texts are another one. -/
theorem summarize_gathers_orders : ∃ numbers texts,
    KeyedBy .empty (ofDefinitions [byRating]).scope.groups (fun p q => p % 2 = q % 2)
        (orders.map (·.1)) (ratings.map ([·])) ∧
      (ofDefinitions [byRating]).summarize .empty orders = .ok [numbers, texts] ∧
      (numbers.count, numbers.first, numbers.last) = (3, 0, 4) ∧
      (texts.count, texts.first, texts.last) = (2, 1, 3) := by
  obtain ⟨summaries, hs, hgathers, -, -⟩ := summarize_gathers keyedBy_orders
  have hplaces : firstPlaces (fun p q => p % 2 = q % 2) orders.length = [0, 1] := by decide
  rw [hplaces] at hgathers
  obtain ⟨numbers, _, hnumbers, hrest, rfl⟩ := List.forall₂_cons_right_iff.1 hgathers
  obtain ⟨texts, _, htexts, hnil, rfl⟩ := List.forall₂_cons_right_iff.1 hrest
  obtain rfl := List.forall₂_nil_right_iff.1 hnil
  exact ⟨numbers, texts, keyedBy_orders, hs, hnumbers.summarizes.eq_of_run rfl rfl,
    htexts.summarizes.eq_of_run rfl rfl⟩

end Groups

end ControlBreak
