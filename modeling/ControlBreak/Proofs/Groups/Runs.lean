import ControlBreak.Proofs.Groups.Counting
import Mathlib

/-!
# Summaries and runs

Summaries gather the records of a stream by their keys, wherever they stand; breaks are found by
comparing each record with the one before it. Both tell the same story of a stream in which
records with the same keys stand together: each summary is one run of records between two breaks.

The keys are compared by an equivalence. It is one of the places in the stream and not of the
keys, since a key may be equal to one of another record and not to itself.

* `recurAll_iff`, `differs_iff`: what both compare, told by the equivalence;
* `Agrees`: the summaries so far, the last of which is that of the last record, beside the runs;
  every record keeps it (`Agrees.step`), and so does every stream (`Agrees.all`);
* `summarize_runs`: summaries are runs, and their number is told by the breaks of the innermost
  level.
-/

namespace ControlBreak

variable {r : Registry} {declared : List GroupDefinition} {same : GroupDefinition → ℕ → ℕ → Prop}
  {stream : List Value}

/-! ### Keys compared by an equivalence -/

/-- The keys of two records of a stream, given by their places, are the same for all groups. -/
def Alike (declared : List GroupDefinition) (same : GroupDefinition → ℕ → ℕ → Prop)
    (p q : ℕ) : Prop :=
  ∀ d ∈ declared, same d p q

/-- Whether two keys are equal can be asked, and is told by a proposition, which holds if the
    keys are one occurrence. -/
structure EqualIf (old new : Value) (equal : Prop) : Prop where
  recurs : ∃ b, old.recurs new = .ok b ∧ (b = true ↔ equal)
  occurrence : Value.sameMark old new = true → equal

/-- Each record of a stream has keys that may be keys of summaries, and an equivalence of the
    places in the stream tells which of them are equal. -/
structure ComparedBy (r : Registry) (declared : List GroupDefinition)
    (same : GroupDefinition → ℕ → ℕ → Prop) (stream : List Value) : Prop where
  equivalence : ∀ d ∈ declared, Equivalence (same d)
  hashable : ∀ record ∈ stream, ∀ d ∈ declared, ∃ key, keyOf r record d = .ok key ∧
    key.isHashable = true
  equal : ∀ p q last next, p < q → stream[p]? = some last → stream[q]? = some next →
    ∀ d ∈ declared, ∀ old new, keyOf r last d = .ok old → keyOf r next d = .ok new →
      EqualIf old new (same d p q)

/-- Records with the same keys stand together. -/
def Contiguous (declared : List GroupDefinition) (same : GroupDefinition → ℕ → ℕ → Prop)
    (n : ℕ) : Prop :=
  ∀ p q s, p < q → q < s → s < n → Alike declared same p s → Alike declared same p q

/-- The keys of the record at a place of a stream, in the order of levels. -/
def KeysAt (r : Registry) (declared : List GroupDefinition) (stream : List Value) (p : ℕ)
    (keys : List Value) : Prop :=
  ∃ record, stream[p]? = some record ∧ HasKeys r record (Scope.ofGroups declared).groups keys

section Keys

variable {groups : List GroupDefinition} {last next : Value} {olds news : List Value}
  {P : GroupDefinition → Prop}

/-- Two records are compared key by key. -/
theorem recurAll_eq_true_iff (ho : HasKeys r last groups olds) (hn : HasKeys r next groups news)
    (h : ∀ d ∈ groups, ∀ old new, keyOf r last d = .ok old → keyOf r next d = .ok new →
      EqualIf old new (P d)) : Value.recurAll olds news = true ↔ ∀ d ∈ groups, P d := by
  rw [HasKeys] at ho hn
  induction ho generalizing news with
  | nil =>
    cases hn
    simp [Value.recurAll]
  | @cons d old groups olds ho _ ih =>
    obtain ⟨new, news', hkey, hnews, rfl⟩ := List.forall₂_cons_left_iff.1 hn
    obtain ⟨hd, h⟩ := List.forall_mem_cons.1 h
    obtain ⟨⟨b, hb, hequal⟩, hmark⟩ := hd old new ho hkey
    have hone : (Value.sameMark old new || b) = true ↔ P d := by
      rw [Bool.or_eq_true, hequal]
      exact or_iff_right_of_imp hmark
    rw [Value.recurAll, hb, Bool.and_eq_true, ih hnews h, List.forall_mem_cons, hone]

theorem allHashable_of_hasKeys {record : Value} {keys : List Value}
    (hk : HasKeys r record groups keys)
    (h : ∀ d ∈ groups, ∀ key, keyOf r record d = .ok key → key.isHashable = true) :
    Value.allHashable keys = true := by
  rw [HasKeys] at hk
  induction hk with
  | nil => rfl
  | cons hkey _ ih =>
    obtain ⟨hd, h⟩ := List.forall_mem_cons.1 h
    rw [Value.allHashable, hd _ hkey, ih h]
    rfl

theorem differs_iff {d : GroupDefinition} {old new : Value} (ho : keyOf r last d = .ok old)
    (hn : keyOf r next d = .ok new) (h : EqualIf old new (P d)) :
    Differs r last next d ↔ ¬P d := by
  obtain ⟨b, hb, hequal⟩ := h.recurs
  rw [← hequal, Bool.not_eq_true]
  constructor
  · rintro ⟨old', new', ho', hn', hd⟩
    cases ho.symm.trans ho'
    cases hn.symm.trans hn'
    exact Except.ok.inj (hb.symm.trans hd)
  · rintro rfl
    exact ⟨old, new, ho, hn, hb⟩

end Keys

namespace ComparedBy

variable {p q : ℕ} {olds news : List Value}

theorem alike (h : ComparedBy r declared same stream) : Equivalence (Alike declared same) where
  refl p d hd := (h.equivalence d hd).refl p
  symm hpq d hd := (h.equivalence d hd).symm (hpq d hd)
  trans hpq hqs d hd := (h.equivalence d hd).trans (hpq d hd) (hqs d hd)

theorem recurAll_iff (h : ComparedBy r declared same stream) (hpq : p < q)
    (hp : KeysAt r declared stream p olds) (hq : KeysAt r declared stream q news) :
    Value.recurAll olds news = true ↔ Alike declared same p q := by
  obtain ⟨last, hlast, ho⟩ := hp
  obtain ⟨next, hnext, hn⟩ := hq
  have hperm := (inLevelOrder_ofGroups declared).perm
  rw [recurAll_eq_true_iff (P := (same · p q)) ho hn fun d hd =>
    h.equal p q last next hpq hlast hnext d (hperm.mem_iff.1 hd)]
  exact ⟨fun hall d hd => hall d (hperm.mem_iff.2 hd), fun hall d hd => hall d (hperm.mem_iff.1 hd)⟩

/-- A record breaks a group if it is not like the one before it. -/
theorem exists_differs_iff (h : ComparedBy r declared same stream) {last next : Value} (hpq : p < q)
    (hp : stream[p]? = some last) (hq : stream[q]? = some next) :
    (∃ d ∈ declared, Differs r last next d) ↔ ¬Alike declared same p q := by
  have hd : ∀ d ∈ declared, (Differs r last next d ↔ ¬same d p q) := by
    intro d hd
    obtain ⟨old, ho, -⟩ := h.hashable last (List.mem_of_getElem? hp) d hd
    obtain ⟨new, hn, -⟩ := h.hashable next (List.mem_of_getElem? hq) d hd
    exact differs_iff (P := (same · p q)) ho hn (h.equal p q last next hpq hp hq d hd old new ho hn)
  simp only [Alike, not_forall]
  constructor
  · rintro ⟨d, hmem, hdiffers⟩
    exact ⟨d, hmem, (hd d hmem).1 hdiffers⟩
  · rintro ⟨d, hmem, hsame⟩
    exact ⟨d, hmem, (hd d hmem).2 hsame⟩

/-- Records that can be compared themselves can be compared with the one before them. -/
theorem comparable (h : ComparedBy r declared same stream)
    (hrecords : stream.IsChain fun last next => ∃ equal, next.equals last = .ok equal) :
    stream.IsChain fun last next => Comparable r declared (some last) next := by
  rw [List.isChain_iff_getElem] at hrecords ⊢
  intro p hp
  have hlast : stream[p]? = some stream[p] := List.getElem?_eq_getElem _
  have hnext : stream[p + 1]? = some stream[p + 1] := List.getElem?_eq_getElem _
  rintro record ⟨⟩
  refine ⟨fun d hd => ?_, hrecords p hp⟩
  obtain ⟨old, ho, -⟩ := h.hashable _ (List.mem_of_getElem? hlast) d hd
  obtain ⟨new, hn, -⟩ := h.hashable _ (List.mem_of_getElem? hnext) d hd
  obtain ⟨b, hb, -⟩ := (h.equal p _ _ _ (Nat.lt_succ_self p) hlast hnext d hd old new ho hn).recurs
  exact ⟨old, new, b, ho, hn, hb⟩

end ComparedBy

/-- Whether a group has the same key at two places of a stream. -/
def SameKey (r : Registry) (stream : List Value) (d : GroupDefinition) (p q : ℕ) : Prop :=
  stream[p]?.map (keyOf r · d) = stream[q]?.map (keyOf r · d)

/-- Texts are compared by an equivalence. -/
theorem comparedBy_of_texts
    (h : ∀ record ∈ stream, ∀ d ∈ declared, ∃ s, keyOf r record d = .ok (.str s)) :
    ComparedBy r declared (SameKey r stream) stream where
  equivalence d _ := ⟨fun _ => rfl, Eq.symm, Eq.trans⟩
  hashable record hr d hd := by
    obtain ⟨s, hs⟩ := h record hr d hd
    exact ⟨.str s, hs, rfl⟩
  equal p q last next _ hp hq d hd old new ho hn := by
    obtain ⟨s, hs⟩ := h last (List.mem_of_getElem? hp) d hd
    obtain ⟨t, ht⟩ := h next (List.mem_of_getElem? hq) d hd
    cases ho.symm.trans hs
    cases hn.symm.trans ht
    have hsame : SameKey r stream d p q ↔ s = t := by
      rw [SameKey, hp, hq, Option.map_some, Option.map_some, ho, hn]
      simp
    refine ⟨⟨s == t, ?_, beq_iff_eq.trans hsame.symm⟩, nofun⟩
    simp [Value.recurs, Value.equals]

/-! ### Breaks of the innermost level -/

namespace Groups

variable {g g' : Groups} {last : Option Value} {next : Value} {s : GroupStep}

/-- A record breaks a group if a key of it differs from the record before. -/
theorem resetsVariables_iff_of_process (h : Tracks r declared g.scope last)
    (hp : g.process r next = .ok (g', s)) :
    s.resetsVariables = true ↔ ∃ record ∈ last, ∃ d ∈ declared, Differs r record next d := by
  obtain ⟨change, scope, hc, hs, rfl, rfl⟩ := process_eq_ok_iff.1 hp
  cases h.finds_of_check hc with
  | first => simp [GroupStep.resetsVariables, reported]
  | unchanged hnone => simpa [GroupStep.resetsVariables, reported, Break.isGroup] using hnone
  | detail hnone => simpa [GroupStep.resetsVariables, reported, Break.isGroup] using hnone
  | group hd hdiffers => exact iff_of_true rfl ⟨_, rfl, _, hd, hdiffers⟩

/-- The innermost level counts every break of a group. -/
theorem breakCount_of_process_of_innermost (h : Tracks r declared g.scope last)
    (hp : g.process r next = .ok (g', s)) {d : GroupDefinition} (hd : d ∈ declared)
    (hinner : ∀ e ∈ declared, e.level ≤ d.level) :
    g'.breakCount d.level = g.breakCount d.level + s.resetsVariables.toNat := by
  have hbreaks : ((∃ e ∈ declared, e.level = d.level) ∧
      ∃ record ∈ last, BreaksLevel r declared d.level record next) ↔
        s.resetsVariables = true := by
    rw [and_iff_right ⟨d, hd, rfl⟩, resetsVariables_iff_of_process h hp]
    -- Every group is on this level or around it.
    refine exists_congr fun record => and_congr_right fun _ => exists_congr fun e =>
      and_congr_right fun he => and_iff_right (hinner e he)
  rw [breakCount_of_process h hp, if_congr hbreaks rfl rfl]
  cases s.resetsVariables <;> rfl

/-! ### Runs -/

section Rows

variable {α : Type} {rows : List (GroupStep × α)} {row : GroupStep × α}

/-- The runs of records, each beside what was reported of it: a record that breaks a group starts
    another one. -/
def runs (rows : List (GroupStep × α)) : List (List α) :=
  (rows.splitBy fun _ next => !next.1.resetsVariables).map (·.map (·.2))

theorem runs_of_breaks (h : row.1.resetsVariables = true) :
    runs (rows ++ [row]) = runs rows ++ [[row.2]] := by
  rw [runs, List.splitBy_append_cons [] fun _ _ => by simp [h], List.map_append]
  rfl

/-- A record that breaks no group goes to the run of the record before it. -/
theorem runs_of_not_breaks (h : row.1.resetsVariables = false) {earlier : List (List α)}
    {run : List α} (hruns : runs rows = earlier ++ [run]) :
    runs (rows ++ [row]) = earlier ++ [run ++ [row.2]] := by
  rw [runs] at hruns ⊢
  obtain ⟨before, last, hsplit, rfl, hlast⟩ := List.map_eq_append_iff.1 hruns
  obtain ⟨run', _, rfl, rfl, hnil⟩ := List.map_eq_cons_iff.1 hlast
  obtain rfl := List.map_eq_nil_iff.1 hnil
  obtain ⟨hflatten, hne, hchain, hbreaks⟩ := List.splitBy_eq_iff.1 hsplit
  have hsplit' : (rows ++ [row]).splitBy (fun _ next => !next.1.resetsVariables) =
      before ++ [run' ++ [row]] := by
    refine List.splitBy_eq_iff.2 ⟨by simp [hflatten], ?_, ?_, ?_⟩
    · simpa using fun hmem => hne (List.mem_append_left _ hmem)
    · intro run hrun
      obtain hrun | hrun := List.mem_append.1 hrun
      · exact hchain run (List.mem_append_left _ hrun)
      · obtain rfl := List.mem_singleton.1 hrun
        refine List.isChain_append.2 ⟨hchain run' (by simp), List.isChain_singleton _, ?_⟩
        intro x _ y hy
        obtain rfl := Option.some.inj hy
        simp [h]
    · -- The run starts where it started.
      obtain ⟨hbefore, -, hstart⟩ := List.isChain_append.1 hbreaks
      refine List.isChain_append.2 ⟨hbefore, List.isChain_singleton _, ?_⟩
      intro x hx y hy
      obtain rfl := Option.some.inj hy
      obtain ⟨hx', hrun, hbreak⟩ := hstart x hx run' rfl
      exact ⟨hx', by simp, by rwa [List.head_append_of_ne_nil hrun]⟩
  rw [hsplit']
  simp

end Rows

/-! ### Summaries of runs -/

section Summaries

variable {ρ : Type} {groups : List GroupDefinition} {keys : List Value}

/-- A summary is one of a run of records: it tells how many they are, which comes first and
    which last. -/
structure Summarizes (s : Summary ρ) (run : List (Value × ρ)) : Prop where
  count : s.count = run.length
  first : run.head?.map (·.2) = some s.first
  last : run.getLast?.map (·.2) = some s.last

theorem Summarizes.append {s : Summary ρ} {run : List (Value × ρ)} (h : Summarizes s run)
    (record : Value × ρ) :
    Summarizes { s with count := s.count + 1, last := record.2 } (run ++ [record]) := by
  refine ⟨by simp [h.count], ?_, by simp⟩
  have hne : run ≠ [] := by
    rintro rfl
    cases h.first
  rw [List.head?_append_of_ne_nil _ hne]
  exact h.first

/-- Summaries of other keys are passed over. -/
theorem addToSummaries_append {x : ρ} {earlier rest : List (Summary ρ)}
    (h : ∀ s ∈ earlier, Value.recurAll s.keys keys = false) :
    addToSummaries groups keys x (earlier ++ rest) =
      earlier ++ addToSummaries groups keys x rest := by
  induction earlier with
  | nil => rfl
  | cons s earlier ih =>
    obtain ⟨hs, h⟩ := List.forall_mem_cons.1 h
    rw [List.cons_append, addToSummaries, if_neg (by simp [hs]), ih h, List.cons_append]

/-- The summaries with one more record. -/
def summarizeStep (r : Registry) (groups : List GroupDefinition) (summaries : List (Summary ρ))
    (record : Value × ρ) : Host (List (Summary ρ)) := do
  let keys ← Scope.evaluateKeys r record.1 groups
  let _ ← Value.asKey (.tuple keys)
  return addToSummaries groups keys record.2 summaries

theorem summarize_eq_foldlM (g : Groups) (records : List (Value × ρ)) :
    g.summarize r records = records.foldlM (summarizeStep r g.scope.groups) [] := rfl

end Summaries

/-! ### Where the next record goes -/

section Placement

variable {ρ : Type} {n m : ℕ} {summaries earlier : List (Summary ρ)} {current : Summary ρ}
  {keys : List Value}

/-- Summaries of records up to a place `m`, with keys that are not those of the record at `n`. -/
def Apart (r : Registry) (declared : List GroupDefinition) (same : GroupDefinition → ℕ → ℕ → Prop)
    (stream : List Value) (m n : ℕ) (summaries : List (Summary ρ)) : Prop :=
  ∀ s ∈ summaries, ∃ p ≤ m, KeysAt r declared stream p s.keys ∧ ¬Alike declared same p n

theorem Apart.succ (h : Apart r declared same stream m n summaries) :
    Apart r declared same stream (m + 1) n summaries := by
  intro s hs
  obtain ⟨p, hp, hkeys, halike⟩ := h s hs
  exact ⟨p, Nat.le_succ_of_le hp, hkeys, halike⟩

/-- A record goes to none of the summaries of others. -/
theorem Apart.recurAll (h : Apart r declared same stream m (m + 1) summaries)
    (hc : ComparedBy r declared same stream) (hkeys : KeysAt r declared stream (m + 1) keys) :
    ∀ s ∈ summaries, Value.recurAll s.keys keys = false := by
  intro s hs
  obtain ⟨p, hp, hpkeys, halike⟩ := h s hs
  rwa [← Bool.not_eq_true, hc.recurAll_iff (Nat.lt_succ_of_le hp) hpkeys hkeys]

/-- Of the summaries of a stream up to the record at a place, one has the keys of this record,
    and it is the last one. -/
structure IsLatest (r : Registry) (declared : List GroupDefinition)
    (same : GroupDefinition → ℕ → ℕ → Prop) (stream : List Value) (m : ℕ)
    (earlier : List (Summary ρ)) (current : Summary ρ) : Prop where
  latest : ∃ p ≤ m, KeysAt r declared stream p current.keys ∧ Alike declared same p m
  others : Apart r declared same stream m m earlier

/-- A record like the one before it goes to the last summary. -/
theorem IsLatest.add_of_alike (h : IsLatest r declared same stream m earlier current)
    (hc : ComparedBy r declared same stream) (hkeys : KeysAt r declared stream (m + 1) keys)
    (halike : Alike declared same m (m + 1)) (groups : List GroupDefinition) (x : ρ) :
    addToSummaries groups keys x (earlier ++ [current]) =
        earlier ++ [{ current with count := current.count + 1, last := x }] ∧
      IsLatest r declared same stream (m + 1) earlier
        { current with count := current.count + 1, last := x } := by
  obtain ⟨p, hp, hpkeys, hpalike⟩ := h.latest
  -- What is like the last record is like this one, and what is not is not.
  have hpnext : Alike declared same p (m + 1) := hc.alike.trans hpalike halike
  have hothers : Apart r declared same stream m (m + 1) earlier := by
    intro s hs
    obtain ⟨q, hq, hqkeys, hqalike⟩ := h.others s hs
    exact ⟨q, hq, hqkeys, fun hqnext => hqalike (hc.alike.trans hqnext (hc.alike.symm halike))⟩
  have hcurrent : Value.recurAll current.keys keys = true :=
    (hc.recurAll_iff (Nat.lt_succ_of_le hp) hpkeys hkeys).2 hpnext
  refine ⟨?_, ⟨p, Nat.le_succ_of_le hp, hpkeys, hpnext⟩, hothers.succ⟩
  rw [addToSummaries_append (hothers.recurAll hc hkeys), addToSummaries, if_pos hcurrent]

/-- Any other record starts a summary: one with its keys would be of records that stand apart
    from it. -/
theorem IsLatest.add_of_not_alike (h : IsLatest r declared same stream m earlier current)
    (hc : ComparedBy r declared same stream) (hkeys : KeysAt r declared stream (m + 1) keys)
    (hcontiguous : Contiguous declared same n) (hn : m + 1 < n)
    (halike : ¬Alike declared same m (m + 1)) (groups : List GroupDefinition) (x : ρ) :
    addToSummaries groups keys x (earlier ++ [current]) =
        earlier ++ [current] ++ [⟨keys, 1, x, x, Scope.levelValues groups keys⟩] ∧
      IsLatest r declared same stream (m + 1) (earlier ++ [current])
        ⟨keys, 1, x, x, Scope.levelValues groups keys⟩ := by
  have hothers : Apart r declared same stream m (m + 1) (earlier ++ [current]) := by
    intro s hs
    obtain hs | hs := List.mem_append.1 hs
    · obtain ⟨q, hq, hqkeys, hqalike⟩ := h.others s hs
      refine ⟨q, hq, hqkeys, fun hqnext => hqalike ?_⟩
      obtain rfl | hlt := hq.eq_or_lt
      · exact hc.alike.refl q
      · exact hcontiguous q m (m + 1) hlt (Nat.lt_succ_self m) hn hqnext
    · obtain rfl := List.mem_singleton.1 hs
      obtain ⟨p, hp, hpkeys, hpalike⟩ := h.latest
      exact ⟨p, hp, hpkeys, fun hpnext => halike (hc.alike.trans (hc.alike.symm hpalike) hpnext)⟩
  refine ⟨?_, ⟨m + 1, le_rfl, hkeys, hc.alike.refl _⟩, hothers.succ⟩
  rw [← List.append_nil (earlier ++ [current]), addToSummaries_append (hothers.recurAll hc hkeys),
    List.append_nil]
  rfl

end Placement

/-! ### The summaries beside the runs -/

section Agreement

variable {ρ : Type} {records : List (Value × ρ)}

/-- The summaries of the records up to `last` are those of their runs, the last of which is still
    open. There are as many others as there were breaks of the innermost level. -/
structure Agrees (r : Registry) (declared : List GroupDefinition)
    (same : GroupDefinition → ℕ → ℕ → Prop) (records before : List (Value × ρ)) (last : Value × ρ)
    (g : Groups) (steps : List GroupStep) (earlier : List (Summary ρ)) (current : Summary ρ) :
    Prop where
  tracks : Tracks r declared g.scope (some last.1)
  length : steps.length = before.length + 1
  isLatest : IsLatest r declared same (records.map (·.1)) before.length earlier current
  runs : ∃ done run, runs (steps.zip (before ++ [last])) = done ++ [run] ∧
    List.Forall₂ Summarizes earlier done ∧ Summarizes current run
  breaks : ∀ d ∈ declared, (∀ e ∈ declared, e.level ≤ d.level) →
    earlier.length = g.breakCount d.level

variable {before rest : List (Value × ρ)} {last next : Value × ρ} {g g' : Groups}
  {steps steps' : List GroupStep} {s : GroupStep} {earlier summaries : List (Summary ρ)}
  {current : Summary ρ} {keys : List Value}

/-- A record goes to the last summary just if it breaks nothing. -/
theorem Agrees.step (hc : ComparedBy r declared same (records.map (·.1)))
    (hcontiguous : Contiguous declared same records.length)
    (h : Agrees r declared same records before last g steps earlier current)
    (hrecords : records = before ++ last :: next :: rest)
    (hp : g.process r next.1 = .ok (g', s))
    (hkeys : HasKeys r next.1 (Scope.ofGroups declared).groups keys) :
    ∃ earlier' current', addToSummaries (Scope.ofGroups declared).groups keys next.2
        (earlier ++ [current]) = earlier' ++ [current'] ∧
      Agrees r declared same records (before ++ [last]) next g' (steps ++ [s]) earlier'
        current' := by
  have hlast : (records.map (·.1))[before.length]? = some last.1 := by simp [hrecords]
  have hnext : (records.map (·.1))[before.length + 1]? = some next.1 := by simp [hrecords]
  have hlt : before.length + 1 < records.length := by simp [hrecords]
  have hnew : KeysAt r declared (records.map (·.1)) (before.length + 1) keys :=
    ⟨next.1, hnext, hkeys⟩
  have htracks := tracks_of_process h.tracks hp
  have hbreaks : s.resetsVariables = true ↔
      ¬Alike declared same before.length (before.length + 1) := by
    rw [resetsVariables_iff_of_process h.tracks hp, ← hc.exists_differs_iff (Nat.lt_succ_self _)
      hlast hnext]
    simp
  have hcount := fun d hd hinner =>
    breakCount_of_process_of_innermost h.tracks hp (d := d) hd hinner
  have hzip : (steps ++ [s]).zip (before ++ [last] ++ [next]) =
      steps.zip (before ++ [last]) ++ [(s, next)] := List.zip_append (by simp [h.length])
  have hlength : (before ++ [last]).length = before.length + 1 := by simp
  obtain ⟨done, run, hruns, hdone, hrun⟩ := h.runs
  -- Breaks and summaries ask one question: whether the record is like the one before it.
  by_cases halike : Alike declared same before.length (before.length + 1)
  · have hsame : s.resetsVariables = false := Bool.eq_false_iff.2 fun h => hbreaks.1 h halike
    obtain ⟨hadd, hlatest⟩ := h.isLatest.add_of_alike hc hnew halike _ next.2
    refine ⟨earlier, _, hadd, htracks, by simp [h.length], hlength ▸ hlatest, ?_, ?_⟩
    · exact ⟨done, _, hzip ▸ runs_of_not_breaks hsame hruns, hdone, hrun.append next⟩
    · intro d hd hinner
      rw [h.breaks d hd hinner, hcount d hd hinner, hsame]
      rfl
  · have hbreak : s.resetsVariables = true := hbreaks.2 halike
    obtain ⟨hadd, hlatest⟩ := h.isLatest.add_of_not_alike hc hnew hcontiguous hlt halike _
      next.2
    refine ⟨earlier ++ [current], _, hadd, htracks, by simp [h.length], hlength ▸ hlatest, ?_, ?_⟩
    · refine ⟨done ++ [run], [next], ?_, List.rel_append hdone (.cons hrun .nil), rfl, rfl, rfl⟩
      rw [hzip, runs_of_breaks hbreak, hruns]
    · intro d hd hinner
      rw [hcount d hd hinner, hbreak, ← h.breaks d hd hinner, List.length_append]
      rfl

theorem summarizeStep_eq_ok {groups : List GroupDefinition} {summaries' : List (Summary ρ)} :
    summarizeStep r groups summaries next = .ok summaries' ↔ ∃ keys, HasKeys r next.1 groups keys ∧
      Value.allHashable keys = true ∧ summaries' = addToSummaries groups keys next.2 summaries := by
  rw [summarizeStep, Host.bind_eq_ok]
  simp only [evaluateKeys_eq_ok]
  refine exists_congr fun keys => and_congr_right fun _ => ?_
  rw [Value.asKey, Value.isHashable]
  cases Value.allHashable keys with
  | false => simp
  | true => exact ⟨fun h => ⟨rfl, (Except.ok.inj h).symm⟩, fun h => congrArg _ h.2.symm⟩

/-- Records are consumed one after the other. -/
theorem processAll_cons_eq_ok {record : Value} {stream : List Value} :
    processAll r g (record :: stream) = (g', .ok steps) ↔ ∃ next s steps',
      g.process r record = .ok (next, s) ∧ processAll r next stream = (g', .ok steps') ∧
        steps = s :: steps' := by
  rw [processAll]
  cases g.process r record with
  | error f => exact iff_of_false (by simp) (by simp)
  | ok state =>
    obtain ⟨next, s⟩ := state
    obtain ⟨last, outcome, hall⟩ : ∃ last outcome, processAll r next stream = (last, outcome) :=
      ⟨_, _, rfl⟩
    simp only [hall, Prod.mk.injEq, Host.map_eq_ok, Except.ok.injEq]
    constructor
    · rintro ⟨rfl, steps', rfl, rfl⟩
      exact ⟨next, s, steps', ⟨rfl, rfl⟩, hall, rfl⟩
    · rintro ⟨_, _, steps', ⟨rfl, rfl⟩, hrest, rfl⟩
      cases hall.symm.trans hrest
      exact ⟨rfl, steps', rfl, rfl⟩

/-- From record to record, the summaries stay those of the runs. -/
theorem Agrees.run (hc : ComparedBy r declared same (records.map (·.1)))
    (hcontiguous : Contiguous declared same records.length)
    (h : Agrees r declared same records before last g steps earlier current)
    (hrecords : records = before ++ last :: rest)
    (hp : processAll r g (rest.map (·.1)) = (g', .ok steps'))
    (hs : rest.foldlM (summarizeStep r (Scope.ofGroups declared).groups) (earlier ++ [current]) =
      .ok summaries) :
    ∃ before' last' earlier' current', records = before' ++ [last'] ∧
      summaries = earlier' ++ [current'] ∧
      Agrees r declared same records before' last' g' (steps ++ steps') earlier' current' := by
  induction rest generalizing before last g steps steps' earlier current with
  | nil =>
    cases hp
    cases hs
    exact ⟨before, last, earlier, current, hrecords, rfl, (List.append_nil steps).symm ▸ h⟩
  | cons next rest ih =>
    obtain ⟨g₁, s, steps', hprocess, hrest, rfl⟩ := processAll_cons_eq_ok.1 hp
    rw [List.foldlM_cons, Host.bind_eq_ok] at hs
    obtain ⟨_, hstep, hs⟩ := hs
    obtain ⟨keys, hkeys, -, rfl⟩ := summarizeStep_eq_ok.1 hstep
    obtain ⟨earlier', current', hadd, hnext⟩ := h.step hc hcontiguous hrecords hprocess hkeys
    rw [hadd] at hs
    obtain ⟨before', last', earlier', current', hrecords', hsummaries, hagrees⟩ :=
      ih hnext (by simp [hrecords]) hrest hs
    exact ⟨before', last', earlier', current', hrecords', hsummaries, by simpa using hagrees⟩

/-- The first record starts the first summary and breaks nothing. -/
theorem Agrees.first (hc : ComparedBy r declared same (records.map (·.1)))
    (hrecords : records = next :: rest)
    (hp : (ofDefinitions declared).process r next.1 = .ok (g', s))
    (hkeys : HasKeys r next.1 (Scope.ofGroups declared).groups keys) :
    Agrees r declared same records [] next g' [s] []
      ⟨keys, 1, next.2, next.2, Scope.levelValues (Scope.ofGroups declared).groups keys⟩ := by
  have hstart : Tracks r declared (ofDefinitions declared).scope none := .ofGroups r declared
  have hnone : s.resetsVariables = false := by
    rw [← Bool.not_eq_true, resetsVariables_iff_of_process hstart hp]
    simp
  have hkeysAt : KeysAt r declared (records.map (·.1)) 0 keys := ⟨next.1, by simp [hrecords], hkeys⟩
  have hlatest : IsLatest r declared same (records.map (·.1)) 0 []
      ⟨keys, 1, next.2, next.2, Scope.levelValues (Scope.ofGroups declared).groups keys⟩ :=
    ⟨⟨0, le_rfl, hkeysAt, hc.alike.refl 0⟩, by simp [Apart]⟩
  refine ⟨tracks_of_process hstart hp, rfl, hlatest, ⟨[], [next], rfl, .nil, rfl, rfl, rfl⟩,
    fun d hd hinner => ?_⟩
  rw [breakCount_of_process_of_innermost hstart hp hd hinner, hnone]
  rfl

end Agreement

/-! ### Whole streams -/

section Streams

variable {ρ : Type} {records : List (Value × ρ)} {g : Groups} {last : Option Value}

/-- Records whose keys may be keys of summaries are summarized. -/
theorem exists_summarize (hc : ComparedBy r declared same (records.map (·.1))) :
    ∃ summaries, (ofDefinitions declared).summarize r records = .ok summaries := by
  have hperm := (inLevelOrder_ofGroups declared).perm
  have hstep : ∀ record ∈ records, ∀ summaries, ∃ summaries',
      summarizeStep r (Scope.ofGroups declared).groups summaries record = .ok summaries' := by
    intro record hr summaries
    have hkeys := hc.hashable record.1 (List.mem_map_of_mem hr)
    obtain ⟨keys, hk⟩ := exists_evaluateKeys fun d hd =>
      let ⟨key, hkey, _⟩ := hkeys d (hperm.mem_iff.1 hd)
      ⟨key, hkey⟩
    have hk := evaluateKeys_eq_ok.1 hk
    have hhashable : Value.allHashable keys = true := by
      refine allHashable_of_hasKeys hk fun d hd key hkey => ?_
      obtain ⟨key', hkey', hhashable⟩ := hkeys d (hperm.mem_iff.1 hd)
      cases hkey.symm.trans hkey'
      exact hhashable
    exact ⟨_, summarizeStep_eq_ok.2 ⟨keys, hk, hhashable, rfl⟩⟩
  exact Host.exists_foldlM_eq_ok hstep []

/-- Records are consumed if each can be compared with the one before it. -/
theorem exists_processAll (h : Tracks r declared g.scope last)
    (hkeys : ∀ record ∈ stream, ∀ d ∈ declared, ∃ key, keyOf r record d = .ok key)
    (hfirst : ∀ next ∈ stream.head?, Comparable r declared last next)
    (hchain : stream.IsChain fun last next => Comparable r declared (some last) next) :
    ∃ g' steps, processAll r g stream = (g', .ok steps) := by
  induction stream generalizing g last with
  | nil => exact ⟨g, [], rfl⟩
  | cons next stream ih =>
    obtain ⟨hnext, hkeys⟩ := List.forall_mem_cons.1 hkeys
    obtain ⟨hsecond, hchain⟩ := List.isChain_cons.1 hchain
    obtain ⟨g₁, s, hp⟩ := exists_process h (hfirst next rfl) hnext
    obtain ⟨g', steps, hall⟩ := ih (tracks_of_process h hp) hkeys hsecond hchain
    exact ⟨g', s :: steps, processAll_cons_eq_ok.2 ⟨g₁, s, steps, hp, hall, rfl⟩⟩

/-- Summaries are the runs of records between breaks, in their order. There is one more of them
    than breaks of the innermost level. -/
theorem summarize_runs (hc : ComparedBy r declared same (records.map (·.1)))
    (hcontiguous : Contiguous declared same records.length) :
    ∃ summaries, (ofDefinitions declared).summarize r records = .ok summaries ∧
      ((records.map (·.1)).IsChain (fun last next => ∃ equal, next.equals last = .ok equal) →
        ∃ g steps, processAll r (ofDefinitions declared) (records.map (·.1)) = (g, .ok steps)) ∧
      ∀ g steps, processAll r (ofDefinitions declared) (records.map (·.1)) = (g, .ok steps) →
        steps.length = records.length ∧
        List.Forall₂ Summarizes summaries (runs (steps.zip records)) ∧
        (records ≠ [] → ∀ d ∈ declared, (∀ e ∈ declared, e.level ≤ d.level) →
          summaries.length = 1 + g.breakCount d.level) := by
  obtain ⟨summaries, hs⟩ := exists_summarize hc
  refine ⟨summaries, hs, fun hchain => ?_, fun g steps hp => ?_⟩
  · refine exists_processAll (.ofGroups r declared) (fun record hr d hd => ?_)
      (fun _ _ => by simp [Comparable]) (hc.comparable hchain)
    obtain ⟨key, hkey, -⟩ := hc.hashable record hr d hd
    exact ⟨key, hkey⟩
  · cases records with
    | nil =>
      cases hp
      cases hs
      exact ⟨rfl, .nil, by simp⟩
    | cons first rest =>
      obtain ⟨g₁, s, steps', hprocess, hrest, rfl⟩ := processAll_cons_eq_ok.1 hp
      rw [summarize_eq_foldlM, List.foldlM_cons, Host.bind_eq_ok] at hs
      obtain ⟨_, hstep, hs⟩ := hs
      obtain ⟨keys, hkeys, -, rfl⟩ := summarizeStep_eq_ok.1 hstep
      have hfirst := Agrees.first hc rfl hprocess hkeys
      obtain ⟨before, last, earlier, current, hrecords, rfl, hagrees⟩ :=
        hfirst.run hc hcontiguous rfl hrest hs
      obtain ⟨done, run, hruns, hdone, hrun⟩ := hagrees.runs
      rw [List.singleton_append, ← hrecords] at hruns
      have hlength : (s :: steps').length = (first :: rest).length := by
        rw [hrecords, List.length_append]
        exact hagrees.length
      refine ⟨hlength, hruns ▸ List.rel_append hdone (.cons hrun .nil), fun _ d hd hinner => ?_⟩
      rw [List.length_append, hagrees.breaks d hd hinner, Nat.add_comm]
      rfl

end Streams

/-! ### Sales by region and city -/

def byRegion : GroupDefinition := ⟨"region", 1, .fieldRef (.str "region"), .ascending⟩

def byCity : GroupDefinition := ⟨"city", 2, .fieldRef (.str "city"), .ascending⟩

def sale (region city : String) : Value :=
  .dict [(.str "region", .str region), (.str "city", .str city)]

theorem keyOf_byRegion (region city : String) :
    keyOf .empty (sale region city) byRegion = .ok (.str region) := by
  cbv

theorem keyOf_byCity (region city : String) :
    keyOf .empty (sale region city) byCity = .ok (.str city) := by
  cbv

/-- Sales of two regions, the first of which has two cities. -/
def sales : List (Value × ℕ) :=
  [(sale "north" "a", 1), (sale "north" "a", 2), (sale "north" "b", 3), (sale "south" "b", 4)]

theorem summarize_runs_sales : ∃ summaries g steps,
    ComparedBy .empty [byCity, byRegion] (SameKey .empty (sales.map (·.1))) (sales.map (·.1)) ∧
      Contiguous [byCity, byRegion] (SameKey .empty (sales.map (·.1))) sales.length ∧
      (ofDefinitions [byCity, byRegion]).summarize .empty sales = .ok summaries ∧
      processAll .empty (ofDefinitions [byCity, byRegion]) (sales.map (·.1)) = (g, .ok steps) ∧
      List.Forall₂ Summarizes summaries (runs (steps.zip sales)) ∧
      summaries.length = 1 + g.breakCount byCity.level := by
  have hc : ComparedBy .empty [byCity, byRegion] (SameKey .empty (sales.map (·.1)))
      (sales.map (·.1)) := by
    refine comparedBy_of_texts fun record hr => ?_
    have hsale : ∃ region city, record = sale region city := by
      simp only [sales, List.map_cons, List.map_nil, List.mem_cons, List.not_mem_nil,
        or_false] at hr
      obtain rfl | rfl | rfl | rfl := hr
      exacts [⟨_, _, rfl⟩, ⟨_, _, rfl⟩, ⟨_, _, rfl⟩, ⟨_, _, rfl⟩]
    obtain ⟨region, city, rfl⟩ := hsale
    refine List.forall_mem_cons.2 ⟨⟨city, keyOf_byCity region city⟩, ?_⟩
    exact List.forall_mem_singleton.2 ⟨region, keyOf_byRegion region city⟩
  -- Records that stand apart have different keys here.
  have hcontiguous : Contiguous [byCity, byRegion] (SameKey .empty (sales.map (·.1)))
      sales.length := by
    intro p q s hpq hqs hs halike
    exfalso
    have hcity := halike byCity (by simp)
    have hregion := halike byRegion (by simp)
    have hplaces : p = 0 ∧ s = 2 ∨ s = 3 ∧ (p = 0 ∨ p = 1) := by
      have hs : s < 4 := hs
      omega
    obtain ⟨rfl, rfl⟩ | ⟨rfl, rfl | rfl⟩ := hplaces
    · simp [SameKey, sales, keyOf_byCity] at hcity
    · simp [SameKey, sales, keyOf_byRegion] at hregion
    · simp [SameKey, sales, keyOf_byRegion] at hregion
  have hchain : (sales.map (·.1)).IsChain fun last next => ∃ equal, next.equals last = .ok equal :=
    .cons_cons ⟨true, by cbv⟩ (.cons_cons ⟨false, by cbv⟩
      (.cons_cons ⟨false, by cbv⟩ (.singleton _)))
  obtain ⟨summaries, hs, hexists, hruns⟩ := summarize_runs hc hcontiguous
  obtain ⟨g, steps, hp⟩ := hexists hchain
  obtain ⟨-, hforall, hlength⟩ := hruns g steps hp
  exact ⟨summaries, g, steps, hc, hcontiguous, hs, hp, hforall,
    hlength (by simp [sales]) byCity (by simp) (by simp [byCity, byRegion])⟩

end Groups

end ControlBreak
