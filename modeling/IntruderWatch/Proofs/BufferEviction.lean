import IntruderWatch.Proofs.DispatcherBuffer

/-!
# Evictions with room in the buffer

`submit` learns that the queue is full in one call and evicts in another. Between the two the
worker may take items, and their number is what the queue lacks to its full size when the
oldest item is thrown away.
-/

namespace IntruderWatch.Proofs
open Py Interaction

variable {Image : Type} {queueSize : ℤ} {quality : ℕ} {s s' : AlertDispatcher Image}
  {labels : List (DispatchLabel Image)} {label : DispatchLabel Image}

/-- One more label in the count of items taken since `put_nowait` last found the queue full. -/
def countTake (taken : ℕ) : DispatchLabel Image → ℕ
  | .full => 0
  | .take _ => taken + 1
  | _ => taken

def takenSinceFull (labels : List (DispatchLabel Image)) : ℕ :=
  labels.foldl countTake 0

lemma takenSinceFull_snoc (labels : List (DispatchLabel Image)) (label : DispatchLabel Image) :
    takenSinceFull (labels ++ [label]) = countTake (takenSinceFull labels) label := by
  unfold takenSinceFull
  rw [List.foldl_append]
  rfl

/-- A detector about to evict finds the full queue less what was taken in between. -/
def EvictingAt (queueSize : ℤ) (taken : ℕ) (s : AlertDispatcher Image) : Prop :=
  ∀ item, s.producer = .evicting item → (s.queue.length : ℤ) + taken = queueSize

lemma evictingAt_step (hbounded : Bounded queueSize s) {taken : ℕ}
    (hs : EvictingAt queueSize taken s) (h : DispatchStep queueSize quality s label s') :
    EvictingAt queueSize (countTake taken label) s' := by
  intro item hevicting
  cases h with
  | submit | put | empty | evict => cases hevicting
  | discard hdiscarding =>
    dsimp only at hevicting
    split_ifs at hevicting
  | full hputting hfull =>
    have hlow := hfull.2
    unfold Bounded at hbounded
    dsimp only [countTake]
    omega
  | take hwaiting hqueue =>
    have hbefore := hs item hevicting
    rw [hqueue, List.length_cons] at hbefore
    dsimp only [countTake]
    push_cast at hbefore ⊢
    omega
  | call | taskDone | returned => exact hs item hevicting

lemma evictingAt_run (hsize : 1 ≤ queueSize) (h : DispatchRun queueSize quality labels s) :
    EvictingAt queueSize (takenSinceFull labels) s := by
  induction h with
  | nil =>
    intro item hevicting
    cases hevicting
  | snoc hrun hstep ih =>
    rw [takenSinceFull_snoc]
    exact evictingAt_step (bounded_run hsize hrun) ih hstep

/-- An eviction finds the queue full exactly when nothing was taken since it was seen full. -/
lemma evicts_full_iff (hsize : 1 ≤ queueSize) {oldest : AlertItem Image}
    (hrun : DispatchRun queueSize quality labels s)
    (hevict : DispatchStep queueSize quality s (.evict oldest) s') :
    (s.queue.length : ℤ) = queueSize ↔ takenSinceFull labels = 0 := by
  cases hevict with
  | evict hevicting hqueue =>
    have hcount := evictingAt_run hsize hrun _ hevicting
    omega

/-- At every eviction of a run the queue holds `queueSize` items. -/
def EvictsWhenFull (queueSize : ℤ) (quality : ℕ) (labels : List (DispatchLabel Image)) : Prop :=
  ∀ before oldest after, labels = before ++ .evict oldest :: after →
    ∀ s s', DispatchRun queueSize quality before s →
      DispatchStep queueSize quality s (.evict oldest) s' → (s.queue.length : ℤ) = queueSize

/-- No item is taken between a `Full` of `put_nowait` and an eviction. -/
def NoTakeBeforeEviction (labels : List (DispatchLabel Image)) : Prop :=
  ∀ before oldest after, labels = before ++ .evict oldest :: after → takenSinceFull before = 0

/-- A run passes through the state of each of its evictions. -/
lemma eviction_state {before after : List (DispatchLabel Image)} {oldest : AlertItem Image}
    (h : DispatchRun queueSize quality (before ++ .evict oldest :: after) s) :
    ∃ s₀ s₁, DispatchRun queueSize quality before s₀ ∧
      DispatchStep queueSize quality s₀ (.evict oldest) s₁ := by
  have happend : before ++ .evict oldest :: after = before ++ [.evict oldest] ++ after := by simp
  rw [happend] at h
  obtain ⟨s₁, hevicted, -⟩ := Transition.Run.split h
  obtain ⟨s₀, hbefore, hstep⟩ := Transition.Run.snoc_iff.mp hevicted
  exact ⟨s₀, s₁, hbefore, hstep⟩

/-- In every run, no item is thrown away while there is room if and only if the worker takes
nothing between a `Full` of `put_nowait` and the eviction that follows it. -/
theorem evicts_when_full_iff (hsize : 1 ≤ queueSize) (h : DispatchRun queueSize quality labels s) :
    EvictsWhenFull queueSize quality labels ↔ NoTakeBeforeEviction labels := by
  constructor
  · rintro hfull before oldest after rfl
    obtain ⟨s₀, s₁, hbefore, hstep⟩ := eviction_state h
    exact (evicts_full_iff hsize hbefore hstep).mp (hfull before oldest after rfl s₀ s₁ hbefore hstep)
  · intro hnone before oldest after hlabels s₀ s₁ hbefore hstep
    exact (evicts_full_iff hsize hbefore hstep).mpr (hnone before oldest after hlabels)

lemma takenSinceFull_eq_zero (h : ∀ label ∈ labels, ∀ item, label ≠ .take item) :
    takenSinceFull labels = 0 := by
  induction labels using List.reverseRecOn with
  | nil => rfl
  | append_singleton labels label ih =>
    rw [takenSinceFull_snoc, ih (fun l hl => h l (List.mem_append_left _ hl))]
    cases label with
    | take item => exact absurd rfl (h (.take item) (by simp) item)
    | _ => rfl

theorem evicts_when_full_iff_headDrop : EvictsWhenFull 1 85 headDrop := by
  obtain ⟨s, hrun⟩ := headDrop_run
  apply (evicts_when_full_iff le_rfl hrun).mpr
  intro before oldest after hlabels
  apply takenSinceFull_eq_zero
  rintro label hmem item rfl
  have htake : DispatchLabel.take item ∈ headDrop := by
    rw [hlabels]
    exact List.mem_append_left _ hmem
  simp [headDrop] at htake

/-- A buffer of two: the worker takes the first item after the third submit has seen the queue
full. -/
def takenInBetween : List (DispatchLabel Unit) :=
  [.submit diskItem, .put diskItem, .submit diskItem, .put diskItem, .submit diskItem, .full,
    .take diskItem]

/-- The second item is thrown away while the queue has room for the third. -/
theorem evicts_with_room : ∃ s s', DispatchRun 2 85 (takenInBetween ++ [.evict diskItem]) s' ∧
    DispatchRun 2 85 takenInBetween s ∧ s.queue.length = 1 ∧
    ¬ EvictsWhenFull 2 85 (takenInBetween ++ [.evict diskItem]) := by
  have hsubmit := Transition.Run.single
    (show DispatchStep 2 85 (AlertDispatcher.start Unit) (.submit diskItem) _ from .submit rfl)
  have hput := hsubmit.snoc (show DispatchStep 2 85 _ (.put diskItem) _ from
    .put rfl (by simp [queueFull, AlertDispatcher.start]))
  have hsubmit' := hput.snoc (show DispatchStep 2 85 _ (.submit diskItem) _ from .submit rfl)
  have hput' := hsubmit'.snoc (show DispatchStep 2 85 _ (.put diskItem) _ from
    .put rfl (by simp [queueFull, AlertDispatcher.start]))
  have hsubmit'' := hput'.snoc (show DispatchStep 2 85 _ (.submit diskItem) _ from .submit rfl)
  have hfull := hsubmit''.snoc (show DispatchStep 2 85 _ .full _ from
    .full rfl (by simp [queueFull, AlertDispatcher.start]))
  have htake := hfull.snoc (show DispatchStep 2 85 _ (.take diskItem) _ from .take rfl rfl)
  have hevict := htake.snoc (show DispatchStep 2 85 _ (.evict diskItem) _ from .evict rfl rfl)
  refine ⟨_, _, hevict, htake, rfl, ?_⟩
  intro hwhenFull
  have hlength := hwhenFull takenInBetween diskItem [] rfl _ _ htake (.evict rfl rfl)
  simp at hlength

end IntruderWatch.Proofs
