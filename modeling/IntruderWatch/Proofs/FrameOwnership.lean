import IntruderWatch.Library.Runs
import IntruderWatch.Proofs.PipelineMoves

/-!
# Ownership of frame items

Every allocated item is in exactly one of the pool, the main loop, the channel and the
worker. This makes the writes of one goroutine invisible to the other, so that what the
worker encodes is the frame that was submitted, and messages go out in submission order.
-/

namespace IntruderWatch.Proofs
open Pipeline Transition

/-! ### Who holds an item -/

/-- The item that the main loop is responsible for. -/
def mainHeld : MainState → List ℕ
  | .reading item _ _ | .captured item _ | .submitting item _ | .releasing item _ => [item]
  | .top | .stopped => []

def workerHeld : WorkerState → List ℕ
  | .encoding item _ | .building item _ | .publishing item _ | .releasing item => [item]
  | .idle | .stopped => []

/-- Each allocated item is in exactly one place, and the channel is bounded. -/
structure Owned (s : Pipeline) : Prop where
  once : ∀ r, s.framePool.count r + (mainHeld s.main).count r + s.frameChan.count r +
    (workerHeld s.worker).count r = if r < s.allocated then 1 else 0
  bounded : s.frameChan.length ≤ chanCapacity

section

variable {cfg : Config} {enc : Encoders} {minInterval : Duration} {s s' : Pipeline}
  {e : PipelineEvent} {o : Observation}

lemma owned_start (d : MacroblockDetector) : Owned (Pipeline.start d) := by
  constructor
  · intro r
    simp [Pipeline.start, mainHeld, workerHeld]
  · simp [Pipeline.start, chanCapacity]

/-- Moves that keep the four places as they are. -/
lemma Owned.same (h : Owned s) (hpool : s'.framePool = s.framePool)
    (hmain : mainHeld s'.main = mainHeld s.main) (hchan : s'.frameChan = s.frameChan)
    (hworker : workerHeld s'.worker = workerHeld s.worker) (halloc : s'.allocated = s.allocated) :
    Owned s' := by
  constructor
  · intro r
    rw [hpool, hmain, hchan, hworker, halloc]
    exact h.once r
  · rw [hchan]
    exact h.bounded

theorem Owned.step (h : Owned s) (hmove : Moves cfg enc minInterval s e o s') : Owned s' := by
  cases hmove with
  | startError hm | reset hm => exact h.same rfl rfl rfl rfl rfl
  | cancel => exact h.same rfl rfl rfl rfl rfl
  | mainStop hm | readChunk hm | readError hm | frameRead hm | skip hm | dispatch hm
  | backpressure hm => exact h.same rfl (by simp [hm, mainHeld]) rfl rfl rfl
  | workerStop hw | encodeByte hw | encoded hw | encodingFailed hw | built hw | marshalFailed hw
  | published hw | publishFailed hw => exact h.same rfl rfl rfl (by simp [hw, workerHeld]) rfl
  | @acquirePooled item now hm hr =>
    refine ⟨fun r => ?_, h.bounded⟩
    have hone := h.once r
    have hpos : 0 < s.framePool.count item := List.count_pos_iff.mpr hr
    simp only [hm, mainHeld, List.count_nil, add_zero] at hone
    simp only [mainHeld, List.count_erase, List.count_singleton, beq_iff_eq]
    by_cases hri : item = r
    · subst hri
      simp only [if_true]
      omega
    · simp only [if_neg hri]
      omega
  | @acquireFresh now data hm hdata =>
    refine ⟨fun r => ?_, h.bounded⟩
    have hone := h.once r
    simp only [hm, mainHeld, List.count_nil, add_zero] at hone
    simp only [mainHeld, List.count_singleton, beq_iff_eq]
    split_ifs at hone ⊢ <;> omega
  | @submitted item now hm hlt =>
    refine ⟨fun r => ?_, ?_⟩
    · have hone := h.once r
      simp only [hm, mainHeld] at hone
      simp only [mainHeld, List.count_append, List.count_nil]
      omega
    · rw [List.length_append, List.length_singleton]
      exact hlt
  | @mainRelease item readFailed hm =>
    refine ⟨fun r => ?_, h.bounded⟩
    have hone := h.once r
    simp only [hm, mainHeld, List.count_singleton, beq_iff_eq] at hone
    simp only [mainHeld, List.count_cons, List.count_nil, beq_iff_eq]
    omega
  | @workerReceive item rest hw hchan =>
    refine ⟨fun r => ?_, ?_⟩
    · have hone := h.once r
      simp only [hw, hchan, workerHeld, List.count_cons, List.count_nil, beq_iff_eq] at hone
      simp only [workerHeld, List.count_singleton, beq_iff_eq]
      omega
    · have hb := h.bounded
      rw [hchan, List.length_cons] at hb
      dsimp only
      omega
  | @workerRelease item hw =>
    refine ⟨fun r => ?_, h.bounded⟩
    have hone := h.once r
    simp only [hw, workerHeld, List.count_singleton, beq_iff_eq] at hone
    simp only [workerHeld, List.count_cons, List.count_nil, beq_iff_eq]
    omega

/-! ### Consequences of ownership -/

/-- An item that is somewhere is allocated, and is nowhere else. -/
lemma Owned.total_of_pos (h : Owned s) {item : ℕ}
    (hpos : 0 < s.framePool.count item + (mainHeld s.main).count item + s.frameChan.count item +
      (workerHeld s.worker).count item) :
    item < s.allocated ∧ s.framePool.count item + (mainHeld s.main).count item +
      s.frameChan.count item + (workerHeld s.worker).count item = 1 := by
  have hone := h.once item
  by_cases hlt : item < s.allocated
  · rw [if_pos hlt] at hone
    exact ⟨hlt, hone⟩
  · rw [if_neg hlt] at hone
    omega

lemma Owned.main_alone (h : Owned s) {item : ℕ} (hmain : item ∈ mainHeld s.main) :
    item < s.allocated ∧ item ∉ s.framePool ∧ item ∉ s.frameChan ∧
      item ∉ workerHeld s.worker := by
  have hpos : 0 < (mainHeld s.main).count item := List.count_pos_iff.mpr hmain
  obtain ⟨hlt, htotal⟩ := @Owned.total_of_pos s h item (by omega)
  refine ⟨hlt, ?_, ?_, ?_⟩
  · exact List.count_eq_zero.mp (by omega)
  · exact List.count_eq_zero.mp (by omega)
  · exact List.count_eq_zero.mp (by omega)

lemma Owned.worker_alone (h : Owned s) {item : ℕ} (hworker : item ∈ workerHeld s.worker) :
    item < s.allocated ∧ item ∉ s.framePool ∧ item ∉ s.frameChan ∧ item ∉ mainHeld s.main := by
  have hpos : 0 < (workerHeld s.worker).count item := List.count_pos_iff.mpr hworker
  obtain ⟨hlt, htotal⟩ := @Owned.total_of_pos s h item (by omega)
  refine ⟨hlt, ?_, ?_, ?_⟩
  · exact List.count_eq_zero.mp (by omega)
  · exact List.count_eq_zero.mp (by omega)
  · exact List.count_eq_zero.mp (by omega)

lemma Owned.pool_alone (h : Owned s) {item : ℕ} (hpool : item ∈ s.framePool) :
    item < s.allocated ∧ item ∉ s.frameChan ∧ item ∉ workerHeld s.worker := by
  have hpos : 0 < s.framePool.count item := List.count_pos_iff.mpr hpool
  obtain ⟨hlt, htotal⟩ := @Owned.total_of_pos s h item (by omega)
  refine ⟨hlt, ?_, ?_⟩
  · exact List.count_eq_zero.mp (by omega)
  · exact List.count_eq_zero.mp (by omega)

/-- At most four items are outside the pool. -/
lemma Owned.outside_le_four (h : Owned s) :
    ((List.range s.allocated).filter (fun r => r ∉ s.framePool)).length ≤ 4 := by
  have hsub : (List.range s.allocated).filter (fun r => r ∉ s.framePool) ⊆
      mainHeld s.main ++ s.frameChan ++ workerHeld s.worker := by
    intro r hr
    simp only [List.mem_filter, List.mem_range, decide_eq_true_eq] at hr
    have hone := h.once r
    rw [if_pos hr.1, List.count_eq_zero.mpr hr.2] at hone
    have hpos : 0 < (mainHeld s.main ++ s.frameChan ++ workerHeld s.worker).count r := by
      rw [List.count_append, List.count_append]
      omega
    exact List.count_pos_iff.mp hpos
  have hle := (List.nodup_range.filter _).subperm hsub
  have hlen := hle.length_le
  have hmain : (mainHeld s.main).length ≤ 1 := by
    unfold mainHeld
    split <;> simp
  have hworker : (workerHeld s.worker).length ≤ 1 := by
    unfold workerHeld
    split <;> simp
  have hchan : s.frameChan.length ≤ 2 := h.bounded
  rw [List.length_append, List.length_append] at hlen
  omega

/-- An item is put by its holder. -/
lemma Owned.put_from_outside {item : ℕ} (h : Owned s)
    (hmove : Moves cfg enc minInterval s e (.put item) s') :
    item ∉ s.framePool ∧ item ∈ s'.framePool := by
  generalize ho : Observation.put item = o at hmove
  cases hmove with
  | mainRelease hm =>
    obtain rfl : item = _ := by simpa using ho
    exact ⟨(h.main_alone (by simp [hm, mainHeld])).2.1, by simp⟩
  | workerRelease hw =>
    obtain rfl : item = _ := by simpa using ho
    exact ⟨(h.worker_alone (by simp [hw, workerHeld])).2.1, by simp⟩
  | @publishFailed item message delivered hw => cases delivered <;> cases ho
  | _ => cases ho

/-- A pooled item stays in the pool until it is got. -/
lemma pooled_stays {item : ℕ} (hmove : Moves cfg enc minInterval s e o s')
    (hpool : item ∈ s.framePool) (ho : o ≠ .got item) : item ∈ s'.framePool := by
  cases hmove with
  | @acquirePooled taken now hm hr =>
    have hne : item ≠ taken := by
      rintro rfl
      exact ho rfl
    exact (List.mem_erase_of_ne hne).mpr hpool
  | mainRelease hm => exact List.mem_cons_of_mem _ hpool
  | workerRelease hw => exact List.mem_cons_of_mem _ hpool
  | _ => exact hpool

/-! ### Runs -/

/-- The step relation of the capturer, labelled by event and observation. -/
abbrev PipelineSteps (cfg : Config) (enc : Encoders) (minInterval : Duration) :
    Pipeline → PipelineEvent × Observation → Pipeline → Prop :=
  Steps (fun s e => s.step cfg enc minInterval e)

lemma run_owned {d : MacroblockDetector} {trace : List (PipelineEvent × Observation)}
    (hrun : Run (PipelineSteps cfg enc minInterval) (Pipeline.start d) trace s) : Owned s :=
  hrun.stateInvariant Owned (owned_start d) (fun _ _ _ h hstep => h.step (step_moves hstep))

/-- Between two puts of an item it is got. -/
theorem put_got_put {d : MacroblockDetector} {item : ℕ} {e' : PipelineEvent}
    {before between after : List (PipelineEvent × Observation)}
    (hrun : Run (PipelineSteps cfg enc minInterval) (Pipeline.start d)
      (before ++ (e, .put item) :: between ++ (e', .put item) :: after) s) :
    ∃ g, (g, Observation.got item) ∈ between := by
  by_contra hnone
  have hlist : before ++ (e, Observation.put item) :: between ++ (e', Observation.put item) :: after =
      before ++ [(e, .put item)] ++ between ++ [(e', .put item)] ++ after := by simp
  rw [hlist] at hrun
  obtain ⟨s₃, hrun, -⟩ := hrun.split
  obtain ⟨s₂, hrun, hlast⟩ := Run.snoc_iff.mp hrun
  have howned := run_owned hrun
  obtain ⟨s₁, hrun, hmid⟩ := hrun.split
  obtain ⟨s₀, hrun, hfirst⟩ := Run.snoc_iff.mp hrun
  have hpooled := ((run_owned hrun).put_from_outside (step_moves hfirst)).2
  have hkept : (∀ p ∈ between, p.2 ≠ .got item) → item ∈ s₂.framePool := by
    refine hmid.invariant (fun past s => (∀ p ∈ past, p.2 ≠ .got item) → item ∈ s.framePool)
      (fun _ => hpooled) ?_
    intro past s p s' ih hstep hall
    apply pooled_stays (step_moves hstep)
    · exact ih (fun q hq => hall q (List.mem_append_left _ hq))
    · exact hall p (by simp)
  have hstill := hkept (fun p hp hgot => hnone ⟨p.1, by rw [← hgot]; exact hp⟩)
  exact (howned.put_from_outside (step_moves hlast)).1 hstill

end

end IntruderWatch.Proofs
