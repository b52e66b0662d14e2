import Mathlib.Tactic

/-!
# Cooldowns

An event fires if no event fired before or the last one that did is more than the cooldown ago.
Over a stream of times this is a greedy selection: in an ordered stream the selected times are more
than the cooldown apart, and every other time follows a selected one within the cooldown. Streams
of several keys can be merged and selected with a cooldown for each key or with a single one; the
two agree exactly if the selections of the single streams keep out of each other's way.
-/

namespace Cooldown

section Greedy

variable {α : Type*} [AddCommGroup α] [LinearOrder α]

/-- Whether an event at `t` fires after the last one that did. -/
def fires (cooldown : α) (last : Option α) (t : α) : Bool :=
  last.all (fun l => cooldown < t - l)

def next (cooldown : α) (last : Option α) (t : α) : Option α :=
  if fires cooldown last t then some t else last

/-- Which events of the stream fire. -/
def greedy (cooldown : α) : Option α → List α → List Bool
  | _, [] => []
  | last, t :: ts => fires cooldown last t :: greedy cooldown (next cooldown last t) ts

/-- The last event that fired. -/
def lastFired (cooldown : α) (ts : List α) : Option α :=
  ts.foldl (next cooldown) none

def fired (cooldown : α) (ts : List α) : List α :=
  ((ts.zip (greedy cooldown none ts)).filter Prod.snd).map Prod.fst

variable {cooldown : α}

@[simp] lemma fires_some {l t : α} : fires cooldown (some l) t = true ↔ cooldown < t - l := by
  simp [fires]

lemma greedy_length (last : Option α) (ts : List α) :
    (greedy cooldown last ts).length = ts.length := by
  induction ts generalizing last with
  | nil => rfl
  | cons t ts ih => rw [greedy, List.length_cons, List.length_cons, ih]

lemma greedy_append (last : Option α) (ts us : List α) :
    greedy cooldown last (ts ++ us) =
      greedy cooldown last ts ++ greedy cooldown (ts.foldl (next cooldown) last) us := by
  induction ts generalizing last with
  | nil => rfl
  | cons t ts ih => rw [List.cons_append, greedy, greedy, ih, List.cons_append, List.foldl_cons]

lemma greedy_snoc (ts : List α) (t : α) : greedy cooldown none (ts ++ [t]) =
    greedy cooldown none ts ++ [fires cooldown (lastFired cooldown ts) t] :=
  greedy_append none ts [t]

lemma lastFired_snoc (ts : List α) (t : α) :
    lastFired cooldown (ts ++ [t]) = next cooldown (lastFired cooldown ts) t :=
  List.foldl_append

lemma fired_snoc (ts : List α) (t : α) : fired cooldown (ts ++ [t]) =
    fired cooldown ts ++ if fires cooldown (lastFired cooldown ts) t then [t] else [] := by
  unfold fired
  rw [greedy_snoc, List.zip_append (greedy_length none ts).symm, List.filter_append, List.map_append]
  cases fires cooldown (lastFired cooldown ts) t <;> rfl

lemma lastFired_eq (ts : List α) : lastFired cooldown ts = (fired cooldown ts).getLast? := by
  induction ts using List.reverseRecOn with
  | nil => rfl
  | append_singleton ts t ih =>
    rw [lastFired_snoc, fired_snoc, next]
    split_ifs with h
    · simp
    · rw [List.append_nil, ih]

lemma fired_sublist (ts : List α) : (fired cooldown ts).Sublist ts := by
  induction ts using List.reverseRecOn with
  | nil => exact List.Sublist.refl []
  | append_singleton ts t ih =>
    rw [fired_snoc]
    apply ih.append
    split_ifs
    · exact List.Sublist.refl [t]
    · exact List.nil_sublist [t]

/-- An event that does not fire follows one that did within the cooldown. -/
lemma covered {ts : List α} {t : α} (h : fires cooldown (lastFired cooldown ts) t = false) :
    ∃ l ∈ fired cooldown ts, t - l ≤ cooldown := by
  rw [lastFired_eq] at h
  cases hlast : (fired cooldown ts).getLast? with
  | none =>
    rw [hlast] at h
    cases h
  | some l =>
    rw [hlast, ← Bool.not_eq_true, fires_some, not_lt] at h
    exact ⟨l, List.mem_of_getLast? hlast, h⟩

lemma lastFired_mem {ts : List α} {l : α} (h : lastFired cooldown ts = some l) : l ∈ ts := by
  rw [lastFired_eq] at h
  exact (fired_sublist ts).subset (List.mem_of_getLast? h)

/-- In an ordered stream the last event that fired is above all of them. -/
lemma le_lastFired {ts : List α} {l last : α} (hts : ts.Pairwise (· ≤ ·))
    (hlast : lastFired cooldown ts = some last) (hl : l ∈ fired cooldown ts) : l ≤ last := by
  have hsorted := hts.sublist (@fired_sublist _ _ _ cooldown ts)
  rw [lastFired_eq] at hlast
  obtain ⟨before, hsplit⟩ := List.getLast?_eq_some_iff.mp hlast
  rw [hsplit] at hl hsorted
  rcases List.mem_append.mp hl with hl | hl
  · exact (List.pairwise_append.mp hsorted).2.2 l hl last (List.mem_singleton_self last)
  · exact (List.mem_singleton.mp hl).le

lemma lastFired_isSome {ts : List α} {l : α} (hl : l ∈ fired cooldown ts) :
    ∃ last, lastFired cooldown ts = some last := by
  rw [lastFired_eq]
  cases h : (fired cooldown ts).getLast? with
  | some last => exact ⟨last, rfl⟩
  | none =>
    rw [List.getLast?_eq_none_iff.mp h] at hl
    cases hl

/-- The flags of a stream of times are those of the greedy selection. -/
def Greedy (cooldown : α) (p : List (α × Bool)) : Prop :=
  p.map Prod.snd = greedy cooldown none (p.map Prod.fst)

lemma Greedy.fired_eq {p : List (α × Bool)} (h : Greedy cooldown p) :
    fired cooldown (p.map Prod.fst) = (p.filter Prod.snd).map Prod.fst := by
  unfold fired
  rw [← h, ← List.zip_of_prod (rfl : p.map Prod.fst = _) rfl]

lemma Greedy.snoc {p : List (α × Bool)} {x : α × Bool} (h : Greedy cooldown (p ++ [x])) :
    Greedy cooldown p ∧ x.2 = fires cooldown (lastFired cooldown (p.map Prod.fst)) x.1 := by
  unfold Greedy at h
  rw [List.map_append, List.map_append, List.map_singleton, List.map_singleton, greedy_snoc] at h
  obtain ⟨hinit, hlast⟩ := List.append_inj' h rfl
  exact ⟨hinit, (List.cons.inj hlast).1⟩

lemma Greedy.before {before after : List (α × Bool)} (h : Greedy cooldown (before ++ after)) :
    Greedy cooldown before := by
  induction after using List.reverseRecOn with
  | nil => rwa [List.append_nil] at h
  | append_singleton after x ih =>
    rw [← List.append_assoc] at h
    exact ih h.snoc.1

theorem Greedy.covered {before after : List (α × Bool)} {t : α}
    (h : Greedy cooldown (before ++ (t, false) :: after)) :
    ∃ l, (l, true) ∈ before ∧ t - l ≤ cooldown := by
  have hsplit : before ++ (t, false) :: after = (before ++ [(t, false)]) ++ after := by simp
  rw [hsplit] at h
  obtain ⟨hbefore, hflag⟩ := h.before.snoc
  obtain ⟨l, hl, hle⟩ := Cooldown.covered hflag.symm
  rw [hbefore.fired_eq] at hl
  obtain ⟨⟨l', flag⟩, hmem, rfl⟩ := List.mem_map.mp hl
  obtain ⟨hmem, hfires⟩ := List.mem_filter.mp hmem
  obtain rfl : flag = true := hfires
  exact ⟨l', hmem, hle⟩

variable [IsOrderedAddMonoid α]

/-- In an ordered stream an event that fires is more than the cooldown after all that fired. -/
lemma fires_after {ts : List α} {t l : α} (hts : ts.Pairwise (· ≤ ·))
    (h : fires cooldown (lastFired cooldown ts) t = true) (hl : l ∈ fired cooldown ts) :
    cooldown < t - l := by
  obtain ⟨last, hlast⟩ := lastFired_isSome hl
  rw [hlast, fires_some] at h
  exact h.trans_le (sub_le_sub_left (le_lastFired hts hlast hl) t)

/-- The selected times of an ordered stream are more than the cooldown apart. -/
theorem apart {ts : List α} (hts : ts.Pairwise (· ≤ ·)) :
    (fired cooldown ts).Pairwise (fun l t => cooldown < t - l) := by
  induction ts using List.reverseRecOn with
  | nil => exact List.Pairwise.nil
  | append_singleton ts t ih =>
    rw [List.pairwise_append] at hts
    rw [fired_snoc, List.pairwise_append]
    refine ⟨ih hts.1, ?_, ?_⟩
    · split_ifs <;> simp
    · intro l hl t' ht'
      split_ifs at ht' with h
      · obtain rfl := List.mem_singleton.mp ht'
        exact fires_after hts.1 h hl
      · cases ht'

theorem Greedy.apart {p : List (α × Bool)} (h : Greedy cooldown p)
    (hp : (p.map Prod.fst).Pairwise (· ≤ ·)) :
    ((p.filter Prod.snd).map Prod.fst).Pairwise (fun l t => cooldown < t - l) := by
  rw [← h.fired_eq]
  exact Cooldown.apart hp

end Greedy

/-! ### Merged streams -/

section Streams

variable {α κ : Type*} [DecidableEq κ]

/-- The times of one key. -/
def own (k : κ) (es : List (κ × α)) : List α :=
  (es.filter (fun e => e.1 = k)).map Prod.snd

/-- The flags of one key. -/
def ownFlags (k : κ) (es : List (κ × α)) (flags : List Bool) : List Bool :=
  ((es.zip flags).filter (fun p => p.1.1 = k)).map Prod.snd

/-- The times and flags of one key. -/
def streamOf (k : κ) (d : List ((κ × α) × Bool)) : List (α × Bool) :=
  (d.filter (fun x => x.1.1 = k)).map (fun x => (x.1.2, x.2))

lemma streamOf_times (k : κ) (d : List ((κ × α) × Bool)) :
    (streamOf k d).map Prod.fst = own k (d.map Prod.fst) := by
  unfold streamOf own
  rw [List.filter_map, List.map_map, List.map_map]
  rfl

lemma streamOf_flags (k : κ) (d : List ((κ × α) × Bool)) :
    (streamOf k d).map Prod.snd = ownFlags k (d.map Prod.fst) (d.map Prod.snd) := by
  unfold streamOf ownFlags
  rw [List.map_map, ← List.zip_of_prod (rfl : d.map Prod.fst = _) rfl]
  rfl

lemma own_snoc (k : κ) (es : List (κ × α)) (e : κ × α) :
    own k (es ++ [e]) = own k es ++ if e.1 = k then [e.2] else [] := by
  unfold own
  rw [List.filter_append, List.map_append]
  by_cases h : e.1 = k
  · simp [h]
  · simp [h]

lemma own_sorted [LinearOrder α] {es : List (κ × α)} (hes : (es.map Prod.snd).Pairwise (· ≤ ·)) (k : κ) :
    (own k es).Pairwise (· ≤ ·) :=
  hes.sublist (List.filter_sublist.map Prod.snd)

/-- Flags are determined by the flags of the single keys. -/
lemma flags_ext {es : List (κ × α)} {flags flags' : List Bool} (hlen : flags.length = es.length)
    (hlen' : flags'.length = es.length) (h : ∀ k, ownFlags k es flags = ownFlags k es flags') :
    flags = flags' := by
  induction es generalizing flags flags' with
  | nil =>
    rw [List.length_nil, List.length_eq_zero_iff] at hlen hlen'
    rw [hlen, hlen']
  | cons e es ih =>
    obtain ⟨b, flags, rfl⟩ := List.exists_cons_of_length_eq_add_one hlen
    obtain ⟨b', flags', rfl⟩ := List.exists_cons_of_length_eq_add_one hlen'
    unfold ownFlags at h ih
    simp only [List.zip_cons_cons] at h
    have hhead := h e.1
    simp only [List.filter_cons_of_pos, decide_true, List.map_cons, List.cons.injEq] at hhead
    rw [hhead.1]
    congr 1
    apply ih (by simpa using hlen) (by simpa using hlen')
    intro k
    by_cases hk : e.1 = k
    · rw [← hk]
      exact hhead.2
    · have hrest := h k
      rwa [List.filter_cons_of_neg (by simpa using hk), List.filter_cons_of_neg (by simpa using hk)]
        at hrest

end Streams

section Merged

variable {α κ : Type*} [AddCommGroup α] [LinearOrder α] [DecidableEq κ]

/-- Which events fire with a cooldown for each key. -/
def keyed (cooldown : α) : (κ → Option α) → List (κ × α) → List Bool
  | _, [] => []
  | table, e :: es => fires cooldown (table e.1) e.2 ::
      keyed cooldown (Function.update table e.1 (next cooldown (table e.1) e.2)) es

variable {cooldown : α}

lemma keyed_length (table : κ → Option α) (es : List (κ × α)) :
    (keyed cooldown table es).length = es.length := by
  induction es generalizing table with
  | nil => rfl
  | cons e es ih => rw [keyed, List.length_cons, List.length_cons, ih]

/-- With a cooldown for each key every stream is selected as if it were alone. -/
theorem ownFlags_keyed (k : κ) (table : κ → Option α) (es : List (κ × α)) :
    ownFlags k es (keyed cooldown table es) = greedy cooldown (table k) (own k es) := by
  induction es generalizing table with
  | nil => rfl
  | cons e es ih =>
    unfold ownFlags own at ih ⊢
    rw [keyed, List.zip_cons_cons]
    by_cases h : e.1 = k
    · rw [List.filter_cons_of_pos (by simpa using h), List.filter_cons_of_pos (by simpa using h),
        List.map_cons, List.map_cons, ih, greedy, h, Function.update_self]
    · rw [List.filter_cons_of_neg (by simpa using h), List.filter_cons_of_neg (by simpa using h), ih,
        Function.update_of_ne (Ne.symm h)]

lemma keyed_append (table : κ → Option α) (es : List (κ × α)) (e : κ × α) :
    keyed cooldown table (es ++ [e]) = keyed cooldown table es ++
      [fires cooldown ((own e.1 es).foldl (next cooldown) (table e.1)) e.2] := by
  induction es generalizing table with
  | nil => rfl
  | cons d es ih =>
    rw [List.cons_append, keyed, keyed, ih, List.cons_append]
    by_cases h : d.1 = e.1
    · rw [h, Function.update_self, own, own, List.filter_cons_of_pos (by simpa using h), List.map_cons,
        List.foldl_cons]
    · rw [Function.update_of_ne (Ne.symm h), own, own, List.filter_cons_of_neg (by simpa using h)]

/-- The flags of a merged stream are selected with a cooldown for each key. -/
def Keyed (cooldown : α) (d : List ((κ × α) × Bool)) : Prop :=
  d.map Prod.snd = keyed cooldown (fun _ => none) (d.map Prod.fst)

theorem keyed_iff {d : List ((κ × α) × Bool)} :
    Keyed cooldown d ↔ ∀ k, Greedy cooldown (streamOf k d) := by
  constructor
  · intro h k
    unfold Greedy
    rw [streamOf_flags, streamOf_times, h]
    exact ownFlags_keyed k _ _
  · intro h
    apply @flags_ext _ _ _ (d.map Prod.fst)
    · rw [List.length_map, List.length_map]
    · rw [keyed_length]
    · intro k
      rw [ownFlags_keyed, ← streamOf_flags, ← streamOf_times]
      exact h k

/-- The events that fire with a cooldown for each key. -/
def keyedFired (cooldown : α) (es : List (κ × α)) : List (κ × α) :=
  ((es.zip (keyed cooldown (fun _ => none) es)).filter Prod.snd).map Prod.fst

/-- Selected events of different keys are more than the cooldown apart. -/
def Separated (cooldown : α) (es : List (κ × α)) : Prop :=
  (keyedFired cooldown es).Pairwise (fun d e => d.1 ≠ e.1 → cooldown < e.2 - d.2)

lemma keyed_snoc (es : List (κ × α)) (e : κ × α) : keyed cooldown (fun _ => none) (es ++ [e]) =
    keyed cooldown (fun _ => none) es ++ [fires cooldown (lastFired cooldown (own e.1 es)) e.2] :=
  keyed_append _ es e

lemma keyedFired_snoc (es : List (κ × α)) (e : κ × α) : keyedFired cooldown (es ++ [e]) =
    keyedFired cooldown es ++
      if fires cooldown (lastFired cooldown (own e.1 es)) e.2 then [e] else [] := by
  unfold keyedFired
  rw [keyed_snoc, List.zip_append (keyed_length _ es).symm, List.filter_append, List.map_append]
  cases fires cooldown (lastFired cooldown (own e.1 es)) e.2 <;> rfl

lemma own_keyedFired (k : κ) (es : List (κ × α)) :
    own k (keyedFired cooldown es) = fired cooldown (own k es) := by
  induction es using List.reverseRecOn with
  | nil => rfl
  | append_singleton es e ih =>
    rw [keyedFired_snoc, own_snoc]
    by_cases h : e.1 = k
    · rw [if_pos h, fired_snoc, h, ← ih]
      split_ifs
      · rw [own_snoc, if_pos h]
      · rw [List.append_nil, List.append_nil]
    · rw [if_neg h, List.append_nil, ← ih]
      split_ifs
      · rw [own_snoc, if_neg h, List.append_nil]
      · rw [List.append_nil]

/-- If the single cooldown agrees so far, the times that fired are those of the keyed events. -/
lemma fired_eq_keyedFired {es : List (κ × α)}
    (h : greedy cooldown none (es.map Prod.snd) = keyed cooldown (fun _ => none) es) :
    fired cooldown (es.map Prod.snd) = (keyedFired cooldown es).map Prod.snd := by
  unfold fired keyedFired
  rw [h, List.zip_map_left, List.filter_map, List.map_map, List.map_map]
  rfl

variable [IsOrderedAddMonoid α]

lemma agree_step {es : List (κ × α)} {e : κ × α} (hes : (es.map Prod.snd).Pairwise (· ≤ ·))
    (h : greedy cooldown none (es.map Prod.snd) = keyed cooldown (fun _ => none) es) :
    fires cooldown (lastFired cooldown (es.map Prod.snd)) e.2 =
      fires cooldown (lastFired cooldown (own e.1 es)) e.2 ↔
    (fires cooldown (lastFired cooldown (own e.1 es)) e.2 = true →
      ∀ d ∈ keyedFired cooldown es, d.1 ≠ e.1 → cooldown < e.2 - d.2) := by
  have hfired := fired_eq_keyedFired h
  have hmem : ∀ l ∈ fired cooldown (own e.1 es), l ∈ fired cooldown (es.map Prod.snd) := by
    intro l hl
    rw [← own_keyedFired] at hl
    rw [hfired]
    exact (List.filter_sublist.map Prod.snd).subset hl
  constructor
  · intro heq hkeyed d hd _
    apply fires_after hes (heq.trans hkeyed)
    rw [hfired]
    exact List.mem_map_of_mem hd
  · intro hapart
    cases hkeyed : fires cooldown (lastFired cooldown (own e.1 es)) e.2 with
    | true =>
      cases hlast : lastFired cooldown (es.map Prod.snd) with
      | none => rfl
      | some last =>
        have hin : last ∈ fired cooldown (es.map Prod.snd) := by
          rw [lastFired_eq] at hlast
          exact List.mem_of_getLast? hlast
        rw [hfired] at hin
        obtain ⟨d, hd, rfl⟩ := List.mem_map.mp hin
        rw [fires_some]
        by_cases hkey : d.1 = e.1
        · apply fires_after (own_sorted hes e.1) hkeyed
          rw [← own_keyedFired]
          exact List.mem_map_of_mem (List.mem_filter.mpr ⟨hd, by simpa using hkey⟩)
        · exact hapart hkeyed d hd hkey
    | false =>
      obtain ⟨l, hl, hle⟩ := covered hkeyed
      rw [← Bool.not_eq_true]
      intro hfires
      exact absurd (fires_after hes hfires (hmem l hl)) (not_lt.mpr hle)

/-- A single cooldown selects what a cooldown for each key selects if and only if the selections
of different keys are more than the cooldown apart. -/
theorem greedy_eq_keyed_iff {es : List (κ × α)} (hes : (es.map Prod.snd).Pairwise (· ≤ ·)) :
    greedy cooldown none (es.map Prod.snd) = keyed cooldown (fun _ => none) es ↔
      Separated cooldown es := by
  induction es using List.reverseRecOn with
  | nil => exact iff_of_true rfl List.Pairwise.nil
  | append_singleton es e ih =>
    rw [List.map_append, List.pairwise_append] at hes
    have hsplit : Separated cooldown (es ++ [e]) ↔ Separated cooldown es ∧
        (fires cooldown (lastFired cooldown (own e.1 es)) e.2 = true →
          ∀ d ∈ keyedFired cooldown es, d.1 ≠ e.1 → cooldown < e.2 - d.2) := by
      unfold Separated
      rw [keyedFired_snoc, List.pairwise_append]
      split_ifs with h
      · simp [h]
      · simp [h]
    rw [hsplit, ← ih hes.1, List.map_append, List.map_singleton, greedy_snoc, keyed_snoc]
    constructor
    · intro h
      obtain ⟨hinit, hlast⟩ := List.append_inj' h rfl
      exact ⟨hinit, (agree_step hes.1 hinit).mp (List.cons.inj hlast).1⟩
    · rintro ⟨hinit, hlast⟩
      rw [hinit, (agree_step hes.1 hinit).mpr hlast]

/-- With a single cooldown every stream is selected as if it were alone if and only if the
selections of the single streams are more than the cooldown apart. -/
theorem greedy_streams_iff {d : List ((κ × α) × Bool)}
    (hd : ((d.map Prod.fst).map Prod.snd).Pairwise (· ≤ ·))
    (h : d.map Prod.snd = greedy cooldown none ((d.map Prod.fst).map Prod.snd)) :
    (∀ k, Greedy cooldown (streamOf k d)) ↔ Separated cooldown (d.map Prod.fst) := by
  rw [← keyed_iff, ← greedy_eq_keyed_iff hd, ← h]
  exact Iff.rfl

end Merged

end Cooldown
