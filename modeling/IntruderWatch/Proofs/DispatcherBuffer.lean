import IntruderWatch.Proofs.DispatcherWorker

/-!
# The alert buffer under both threads

The queue between detector and worker never outgrows its size, loses nothing but what `submit`
evicts, and keeps the order of the submissions. A submit makes at most two attempts and evicts at
most one item. The queue's count of unfinished tasks is exact, so `task_done` always succeeds.
-/

namespace IntruderWatch.Proofs
open Py Interaction

variable {Image : Type} {queueSize : ℤ} {quality : ℕ} {s s' : AlertDispatcher Image}
  {labels : List (DispatchLabel Image)} {label : DispatchLabel Image}

/-! ### The count of unfinished tasks -/

/-- The items that a thread has taken from the queue and not yet marked done. -/
def workerUnmarked : WorkerThread Image → ℕ
  | .busy _ past _ => 1 - taskDones past
  | _ => 0

def producerUnmarked : ProducerState Image → ℕ
  | .discarding _ => 1
  | _ => 0

def TasksCounted (s : AlertDispatcher Image) : Prop :=
  s.unfinished = s.queue.length + workerUnmarked s.worker + producerUnmarked s.producer

instance (op : DispatchCall Image) : Nonempty (DispatchAns op) := by
  cases op with
  | connectionIsClosed | channelIsClosed => exact ⟨true⟩
  | logPublishFailed | sleep => exact ⟨()⟩
  | _ => exact ⟨.error .osError⟩

/-- Before the worker calls `task_done` it has not called it. -/
lemma taskDones_past {item : AlertItem Image} {link : BrokerLink} {past : DispatchTrace Image}
    {k : Except Exn Unit → Prog (DispatchCall Image) DispatchAns (Except Exn Unit × BrokerLink)}
    (h : ((workerBody quality item).start link).Reaches past (.call .taskDone k)) :
    taskDones past = 0 := by
  obtain ⟨t, ⟨r, link'⟩, hrest⟩ := (k (.ok ())).exists_runs
  have hexec : Exec (workerBody quality item) link (past ++ ⟨.taskDone, Except.ok ()⟩ :: t) r link' :=
    h.runs hrest.call
  obtain ⟨-, hcount, -⟩ := workerBody_spec hexec
  rw [taskDones_append, taskDones, taskDones, List.countP_cons_of_pos rfl] at hcount
  unfold taskDones
  omega

/-- A finished item has been marked done. -/
lemma taskDones_returned {item : AlertItem Image} {link : BrokerLink} {past : DispatchTrace Image}
    {result : Except Exn Unit × BrokerLink}
    (h : ((workerBody quality item).start link).Reaches past (.ret result)) :
    taskDones past = 1 := by
  obtain ⟨r, link'⟩ := result
  have hexec : Exec (workerBody quality item) link past r link' := h.runs_of_ret
  exact (workerBody_spec hexec).2.1

lemma finishTask_ok {n : ℕ} (h : 0 < n) : finishTask n = (.ok (), n - 1) := by
  cases n with
  | zero => exact absurd h (lt_irrefl 0)
  | succ n => rfl

lemma tasksCounted_step (hfollows : WorkerFollows quality s.worker) (hs : TasksCounted s)
    (h : DispatchStep queueSize quality s label s') : TasksCounted s' := by
  unfold TasksCounted at hs ⊢
  cases h with
  | submit hidle | full hidle | empty hidle => simpa [hidle, producerUnmarked] using hs
  | put hputting =>
    simp only [hputting, producerUnmarked, List.length_append, List.length_singleton] at hs ⊢
    omega
  | evict hevicting hqueue =>
    simp only [hevicting, hqueue, producerUnmarked, List.length_cons] at hs ⊢
    omega
  | discard hdiscarding =>
    simp only [hdiscarding, producerUnmarked] at hs
    rw [finishTask_ok (by omega)]
    simp only [Except.isOk, Except.toBool, if_true, producerUnmarked]
    omega
  | take hwaiting hqueue =>
    simp only [hwaiting, hqueue, workerUnmarked, List.length_cons] at hs
    simp only [workerUnmarked, taskDones, List.countP_nil]
    omega
  | @call item past op answer k hbusy hop =>
    have hcount : taskDones (past ++ [⟨op, answer⟩]) = taskDones past := by
      rw [taskDones_append, Nat.add_eq_left, taskDones, List.countP_eq_zero]
      intro c hc
      obtain rfl := List.mem_singleton.mp hc
      cases op with
      | taskDone => exact absurd rfl hop
      | _ => exact Bool.false_ne_true
    simpa [hbusy, workerUnmarked, hcount] using hs
  | @taskDone item past k hbusy =>
    rw [hbusy] at hfollows
    obtain ⟨link, hreach⟩ := hfollows
    have hpast := taskDones_past hreach
    simp only [hbusy, workerUnmarked, hpast] at hs
    rw [finishTask_ok (by omega)]
    simp only [workerUnmarked, taskDones_append, hpast]
    have hone : taskDones ([⟨.taskDone, Except.ok ()⟩] : DispatchTrace Image) = 1 := rfl
    rw [hone]
    omega
  | returned hbusy =>
    rw [hbusy] at hfollows
    obtain ⟨link, hreach⟩ := hfollows
    simp only [hbusy, workerUnmarked, taskDones_returned hreach] at hs
    split_ifs <;> exact hs

lemma tasksCounted_run (h : DispatchRun queueSize quality labels s) : TasksCounted s := by
  induction h with
  | nil => rfl
  | snoc hrun hstep ih => exact tasksCounted_step (follows_run hrun).1 ih hstep

/-! ### Where the items are -/

inductive Place
  | queued
  | processing
  | processed
  | evicted
deriving DecidableEq

def submitted : DispatchLabel Image → Option (AlertItem Image)
  | .submit item => some item
  | _ => none

def enqueued : DispatchLabel Image → Option (AlertItem Image)
  | .put item => some item
  | _ => none

/-- The items that leave the queue, whichever thread takes them. -/
def dequeued : DispatchLabel Image → Option (AlertItem Image)
  | .evict item | .take item => some item
  | _ => none

def evictedItem : DispatchLabel Image → Option (AlertItem Image)
  | .evict item => some item
  | _ => none

def processedItem : DispatchLabel Image → Option (AlertItem Image)
  | .returned item _ _ => some item
  | _ => none

/-- The item of a submit that has not put it yet. -/
def pendingItem : ProducerState Image → List (AlertItem Image)
  | .idle => []
  | .putting item | .evicting item | .discarding item => [item]

def heldItem : WorkerThread Image → List (AlertItem Image)
  | .busy item _ _ => [item]
  | _ => []

def itemsAt (place : Place) (ledger : List (AlertItem Image × Place)) : List (AlertItem Image) :=
  (ledger.filter (fun entry => entry.2 = place)).map Prod.fst

/-- Every item put so far, in the order of the submissions, with the one place where it is. -/
structure BufferLedger (labels : List (DispatchLabel Image)) (s : AlertDispatcher Image)
    (ledger : List (AlertItem Image × Place)) : Prop where
  items : ledger.map Prod.fst = labels.filterMap enqueued
  queued : itemsAt .queued ledger = s.queue
  processing : itemsAt .processing ledger = heldItem s.worker
  processed : itemsAt .processed ledger = labels.filterMap processedItem
  evicted : itemsAt .evicted ledger = labels.filterMap evictedItem
  newest : s.producer = .idle → ∀ item ∈ (labels.filterMap submitted).getLast?,
    ∃ place, place ≠ .evicted ∧ ledger.getLast? = some (item, place)

/-- The part of the ledger that has left the queue. -/
structure Gone (labels : List (DispatchLabel Image)) (s : AlertDispatcher Image)
    (gone : List (AlertItem Image × Place)) : Prop where
  items : gone.map Prod.fst = labels.filterMap dequeued
  order : labels.filterMap enqueued = labels.filterMap dequeued ++ s.queue
  taken : gone.filter (fun entry => entry.2 ≠ .evicted) =
    (labels.filterMap processedItem).map (·, .processed) ++ (heldItem s.worker).map (·, .processing)
  evicted : gone.filter (fun entry => entry.2 = .evicted) =
    (labels.filterMap evictedItem).map (·, .evicted)
  newest : s.producer = .idle → s.queue = [] → ∀ entry ∈ gone.getLast?, entry.2 ≠ .evicted

/-- The worker is through with the entry. -/
def finish : AlertItem Image × Place → AlertItem Image × Place
  | (item, .processing) => (item, .processed)
  | entry => entry

@[simp] lemma finish_fst (entry : AlertItem Image × Place) : (finish entry).1 = entry.1 := by
  obtain ⟨item, place⟩ := entry
  cases place <;> rfl

@[simp] lemma finish_evicted (entry : AlertItem Image × Place) :
    (finish entry).2 = .evicted ↔ entry.2 = .evicted := by
  obtain ⟨item, place⟩ := entry
  cases place <;> simp [finish]

lemma map_fst_finish (gone : List (AlertItem Image × Place)) :
    gone.map (Prod.fst ∘ finish) = gone.map Prod.fst := by
  apply List.map_congr_left
  intro entry _
  exact finish_fst entry

lemma filter_map_finish {p : AlertItem Image × Place → Bool} (hp : ∀ entry, p (finish entry) = p entry)
    (gone : List (AlertItem Image × Place)) :
    (gone.map finish).filter p = (gone.filter p).map finish := by
  rw [List.filter_map]
  congr 1
  apply List.filter_congr
  intro entry _
  exact hp entry

/-- A step that moves no item leaves the ledger as it is. -/
lemma Gone.still {gone : List (AlertItem Image × Place)} (hs : Gone labels s gone)
    (henqueued : enqueued label = none) (hdequeued : dequeued label = none)
    (hprocessed : processedItem label = none) (hevicted : evictedItem label = none)
    (hqueue : s'.queue = s.queue) (hheld : heldItem s'.worker = heldItem s.worker)
    (hidle : s'.producer = .idle → s.producer = .idle) : Gone (labels ++ [label]) s' gone := by
  constructor
  · simpa [hdequeued] using hs.items
  · simpa [henqueued, hdequeued, hqueue] using hs.order
  · simpa [hprocessed, hheld] using hs.taken
  · simpa [hevicted] using hs.evicted
  · intro hidle' hempty
    exact hs.newest (hidle hidle') (hqueue ▸ hempty)

lemma discard_ok (hs : TasksCounted s) {item : AlertItem Image} (h : s.producer = .discarding item) :
    (finishTask s.unfinished).1 = .ok () := by
  unfold TasksCounted at hs
  rw [h, producerUnmarked] at hs
  rw [finishTask_ok (by omega)]

lemma gone_step {gone : List (AlertItem Image × Place)} (hcount : TasksCounted s)
    (hs : Gone labels s gone) (h : DispatchStep queueSize quality s label s') :
    ∃ gone', Gone (labels ++ [label]) s' gone' := by
  cases h with
  | submit | full | empty =>
    exact ⟨gone, hs.still rfl rfl rfl rfl rfl rfl (fun hidle => by cases hidle)⟩
  | discard hdiscarding =>
    refine ⟨gone, hs.still rfl rfl rfl rfl rfl rfl ?_⟩
    intro hidle
    rw [discard_ok hcount hdiscarding] at hidle
    cases hidle
  | @put item hputting =>
    refine ⟨gone, ?_, ?_, ?_, ?_, ?_⟩
    · simpa [List.filterMap_cons, dequeued] using hs.items
    · simp [List.filterMap_cons, enqueued, dequeued, hs.order]
    · simpa [List.filterMap_cons, processedItem] using hs.taken
    · simpa [List.filterMap_cons, evictedItem] using hs.evicted
    · intro _ hempty
      simp at hempty
  | @evict item oldest rest hevicting hqueue =>
    refine ⟨gone ++ [(oldest, .evicted)], ?_, ?_, ?_, ?_, ?_⟩
    · simp [dequeued, hs.items]
    · simp [List.filterMap_cons, enqueued, dequeued, hs.order, hqueue]
    · simpa [List.filterMap_cons, processedItem] using hs.taken
    · simpa [List.filterMap_cons, evictedItem] using hs.evicted
    · intro hidle
      cases hidle
  | @take item rest link hwaiting hqueue =>
    have htaken := hs.taken
    rw [hwaiting] at htaken
    refine ⟨gone ++ [(item, .processing)], ?_, ?_, ?_, ?_, ?_⟩
    · simp [dequeued, hs.items]
    · simp [List.filterMap_cons, enqueued, dequeued, hs.order, hqueue]
    · simpa [List.filterMap_cons, processedItem, heldItem] using htaken
    · simpa [List.filterMap_cons, evictedItem] using hs.evicted
    · simp
  | call hbusy =>
    exact ⟨gone, hs.still rfl rfl rfl rfl rfl (by rw [hbusy]; rfl) id⟩
  | taskDone hbusy =>
    exact ⟨gone, hs.still rfl rfl rfl rfl rfl (by rw [hbusy]; rfl) id⟩
  | @returned item past result link hbusy =>
    have htaken := hs.taken
    rw [hbusy] at htaken
    have hheld : heldItem (if result.isOk then WorkerThread.waiting link else .dead) =
        ([] : List (AlertItem Image)) := by
      split_ifs <;> rfl
    refine ⟨gone.map finish, ?_, ?_, ?_, ?_, ?_⟩
    · rw [List.map_map, map_fst_finish]
      simpa [List.filterMap_cons, dequeued] using hs.items
    · simpa [List.filterMap_cons, enqueued, dequeued] using hs.order
    · rw [filter_map_finish (fun entry => by simp), htaken, hheld]
      simp [processedItem, heldItem, finish]
    · rw [filter_map_finish (fun entry => by simp), hs.evicted]
      simp [List.filterMap_cons, evictedItem, finish]
    · intro hidle hempty entry hentry
      rw [List.getLast?_map, Option.mem_def, Option.map_eq_some_iff] at hentry
      obtain ⟨before, hbefore, rfl⟩ := hentry
      have hplace := hs.newest hidle hempty before hbefore
      simpa using hplace

lemma gone_run (h : DispatchRun queueSize quality labels s) : ∃ gone, Gone labels s gone := by
  induction h with
  | nil => exact ⟨[], rfl, rfl, rfl, rfl, by simp⟩
  | snoc hrun hstep ih =>
    obtain ⟨gone, hgone⟩ := ih
    exact gone_step (tasksCounted_run hrun) hgone hstep

lemma itemsAt_append (place : Place) (ledger ledger' : List (AlertItem Image × Place)) :
    itemsAt place (ledger ++ ledger') = itemsAt place ledger ++ itemsAt place ledger' := by
  unfold itemsAt
  rw [List.filter_append, List.map_append]

/-- All items of a list are at one place. -/
lemma itemsAt_map (place place' : Place) (items : List (AlertItem Image)) :
    itemsAt place (items.map (·, place')) = if place' = place then items else [] := by
  unfold itemsAt
  split_ifs with h
  · rw [List.filter_eq_self.mpr (by simp [h]), List.map_map]
    exact List.map_id items
  · rw [List.filter_eq_nil_iff.mpr (by simp [h]), List.map_nil]

lemma itemsAt_gone {gone : List (AlertItem Image × Place)} (hs : Gone labels s gone) {place : Place}
    (hplace : place ≠ .evicted) :
    itemsAt place gone = itemsAt place ((labels.filterMap processedItem).map (·, .processed)) ++
      itemsAt place ((heldItem s.worker).map (·, .processing)) := by
  rw [← itemsAt_append, ← hs.taken]
  unfold itemsAt
  rw [List.filter_filter]
  congr 1
  apply List.filter_congr
  intro entry _
  by_cases h : entry.2 = place
  · simp [h, hplace]
  · simp [h]

lemma submitted_step (hcount : TasksCounted s)
    (hs : labels.filterMap submitted = labels.filterMap enqueued ++ pendingItem s.producer)
    (h : DispatchStep queueSize quality s label s') : (labels ++ [label]).filterMap submitted =
      (labels ++ [label]).filterMap enqueued ++ pendingItem s'.producer := by
  cases h with
  | submit hproducer | put hproducer | full hproducer | evict hproducer | empty hproducer =>
    rw [hproducer] at hs
    simpa [List.filterMap_cons, submitted, enqueued, pendingItem] using hs
  | discard hproducer =>
    rw [hproducer] at hs
    rw [discard_ok hcount hproducer]
    simpa [List.filterMap_cons, submitted, enqueued, pendingItem, Except.isOk, Except.toBool] using hs
  | take | call | taskDone | returned => simpa [List.filterMap_cons, submitted, enqueued] using hs

lemma submitted_run (h : DispatchRun queueSize quality labels s) :
    labels.filterMap submitted = labels.filterMap enqueued ++ pendingItem s.producer := by
  induction h with
  | nil => rfl
  | snoc hrun hstep ih => exact submitted_step (tasksCounted_run hrun) ih hstep

lemma Gone.ledger {gone : List (AlertItem Image × Place)} (hs : Gone labels s gone)
    (hsubmitted : labels.filterMap submitted = labels.filterMap enqueued ++ pendingItem s.producer) :
    BufferLedger labels s (gone ++ s.queue.map (·, .queued)) := by
  have hitems : (gone ++ s.queue.map (·, Place.queued)).map Prod.fst = labels.filterMap enqueued := by
    rw [hs.order, List.map_append, hs.items, List.map_map]
    exact congrArg _ (List.map_id s.queue)
  constructor
  · exact hitems
  · rw [itemsAt_append, itemsAt_gone hs (by simp)]
    simp [itemsAt_map]
  · rw [itemsAt_append, itemsAt_gone hs (by simp)]
    simp [itemsAt_map]
  · rw [itemsAt_append, itemsAt_gone hs (by simp)]
    simp [itemsAt_map]
  · have hevicted : itemsAt .evicted gone = labels.filterMap evictedItem := by
      unfold itemsAt
      rw [hs.evicted, List.map_map]
      exact List.map_id _
    rw [itemsAt_append, hevicted]
    simp [itemsAt_map]
  · intro hidle item hitem
    rw [hsubmitted, hidle, ← hitems, pendingItem, List.append_nil, List.getLast?_map, Option.mem_def,
      Option.map_eq_some_iff] at hitem
    obtain ⟨⟨item', place⟩, hlast, rfl⟩ := hitem
    refine ⟨place, ?_, hlast⟩
    by_cases hempty : s.queue = []
    · rw [hempty, List.map_nil, List.append_nil] at hlast
      exact hs.newest hidle hempty _ hlast
    · rw [List.getLast?_append_of_ne_nil _ (by simpa using hempty)] at hlast
      obtain ⟨item, -, heq⟩ := List.mem_map.mp (List.mem_of_getLast? hlast)
      obtain ⟨rfl, rfl⟩ := Prod.mk.inj heq
      simp

/-! ### One submit -/

def isPutAttempt : DispatchLabel Image → Bool
  | .put _ | .full => true
  | _ => false

def isEviction : DispatchLabel Image → Bool
  | .evict _ => true
  | _ => false

/-- The steps of the detector thread inside `submit`. -/
def isSubmitStep : DispatchLabel Image → Bool
  | .put _ | .full | .evict _ | .empty | .discard => true
  | _ => false

/-- The queue does not outgrow its size. -/
def Bounded (queueSize : ℤ) (s : AlertDispatcher Image) : Prop :=
  (s.queue.length : ℤ) ≤ queueSize

lemma not_queueFull (hsize : 1 ≤ queueSize) {queue : List (AlertItem Image)} :
    ¬ queueFull queueSize queue ↔ (queue.length : ℤ) < queueSize := by
  unfold queueFull
  omega

lemma bounded_step (hsize : 1 ≤ queueSize) (hs : Bounded queueSize s)
    (h : DispatchStep queueSize quality s label s') : Bounded queueSize s' := by
  unfold Bounded at hs ⊢
  cases h with
  | put _ hroom =>
    rw [not_queueFull hsize] at hroom
    rw [List.length_append, List.length_singleton]
    omega
  | evict _ hqueue | take _ hqueue =>
    rw [hqueue, List.length_cons] at hs
    dsimp only
    omega
  | _ => exact hs

lemma bounded_run (hsize : 1 ≤ queueSize) (h : DispatchRun queueSize quality labels s) :
    Bounded queueSize s := by
  apply h.stateInvariant (Bounded queueSize)
  · unfold Bounded AlertDispatcher.start
    rw [List.length_nil]
    omega
  · intro s label s' hs hstep
    exact bounded_step hsize hs hstep

/-- How far a submit is, by what it has done since it began. -/
def PhaseAt (queueSize : ℤ) (s : AlertDispatcher Image) (attempts evictions steps : ℕ) : Prop :=
  match s.producer with
  | .putting _ => attempts = 0 ∧ evictions = 0 ∧ steps = 0 ∨
      attempts = 1 ∧ evictions ≤ 1 ∧ steps ≤ 3 ∧ (s.queue.length : ℤ) < queueSize
  | .evicting _ => attempts = 1 ∧ evictions = 0 ∧ steps = 1
  | .discarding _ => attempts = 1 ∧ evictions = 1 ∧ steps = 2 ∧ (s.queue.length : ℤ) < queueSize
  | .idle => attempts ≤ 2 ∧ evictions ≤ 1 ∧ steps ≤ 4

def Phase (queueSize : ℤ) (during : List (DispatchLabel Image)) (s : AlertDispatcher Image) : Prop :=
  PhaseAt queueSize s (during.countP isPutAttempt) (during.countP isEviction)
    (during.countP isSubmitStep)

lemma phase_snoc {during : List (DispatchLabel Image)} : Phase queueSize (during ++ [label]) s ↔
    PhaseAt queueSize s (during.countP isPutAttempt + (isPutAttempt label).toNat)
      (during.countP isEviction + (isEviction label).toNat)
      (during.countP isSubmitStep + (isSubmitStep label).toNat) := by
  unfold Phase
  simp only [List.countP_append, List.countP_singleton, Bool.toNat, Bool.cond_eq_ite]

/-- The worker only makes room. -/
lemma PhaseAt.of_worker {attempts evictions steps : ℕ}
    (hs : PhaseAt queueSize s attempts evictions steps) (hproducer : s'.producer = s.producer)
    (hqueue : s'.queue.length ≤ s.queue.length) : PhaseAt queueSize s' attempts evictions steps := by
  unfold PhaseAt at hs ⊢
  rw [hproducer]
  cases hp : s.producer with
  | idle | evicting =>
    rw [hp] at hs
    exact hs
  | putting | discarding =>
    rw [hp] at hs
    dsimp only at hs ⊢
    omega

lemma phase_step {during : List (DispatchLabel Image)} (hsize : 1 ≤ queueSize)
    (hbounded : Bounded queueSize s) (hcount : TasksCounted s) (hs : Phase queueSize during s)
    (hlabel : submitted label = none) (h : DispatchStep queueSize quality s label s') :
    Phase queueSize (during ++ [label]) s' := by
  rw [phase_snoc]
  cases h with
  | submit => cases hlabel
  | put hputting =>
    simp only [Phase, PhaseAt, hputting] at hs
    simp only [PhaseAt, isPutAttempt, isEviction, isSubmitStep, Bool.toNat_true, Bool.toNat_false]
    omega
  | full hputting hfull =>
    rw [← not_not (a := queueFull _ _), not_queueFull hsize] at hfull
    simp only [Phase, PhaseAt, hputting] at hs
    simp only [PhaseAt, isPutAttempt, isEviction, isSubmitStep, Bool.toNat_true, Bool.toNat_false]
    omega
  | evict hevicting hqueue =>
    unfold Bounded at hbounded
    rw [hqueue, List.length_cons] at hbounded
    simp only [Phase, PhaseAt, hevicting] at hs
    simp only [PhaseAt, isPutAttempt, isEviction, isSubmitStep, Bool.toNat_true, Bool.toNat_false]
    omega
  | empty hevicting hqueue =>
    simp only [Phase, PhaseAt, hevicting] at hs
    simp only [PhaseAt, hqueue, isPutAttempt, isEviction, isSubmitStep, Bool.toNat_true,
      Bool.toNat_false, List.length_nil]
    omega
  | discard hdiscarding =>
    simp only [Phase, PhaseAt, hdiscarding] at hs
    simp only [PhaseAt, discard_ok hcount hdiscarding, Except.isOk, Except.toBool, if_true,
      isPutAttempt, isEviction, isSubmitStep, Bool.toNat_true, Bool.toNat_false]
    omega
  | take _ hqueue => exact PhaseAt.of_worker hs rfl (by simp [hqueue])
  | call | taskDone | returned => exact PhaseAt.of_worker hs rfl le_rfl

lemma phase_run {before during : List (DispatchLabel Image)} {item : AlertItem Image}
    (hsize : 1 ≤ queueSize) (hduring : ∀ label ∈ during, submitted label = none)
    (h : DispatchRun queueSize quality (before ++ [.submit item] ++ during) s) :
    Phase queueSize during s := by
  induction during using List.reverseRecOn generalizing s with
  | nil =>
    rw [List.append_nil] at h
    obtain ⟨s₀, -, hstep⟩ := Transition.Run.snoc_iff.mp h
    cases hstep with
    | submit => exact Or.inl ⟨rfl, rfl, rfl⟩
  | append_singleton during label ih =>
    rw [← List.append_assoc] at h
    obtain ⟨s₀, hrun, hstep⟩ := Transition.Run.snoc_iff.mp h
    apply phase_step hsize (bounded_run hsize hrun) (tasksCounted_run hrun) _ (hduring _ (by simp)) hstep
    apply ih _ hrun
    intro l hl
    exact hduring l (List.mem_append_left _ hl)

/-- A submit never waits. -/
lemma submit_proceeds (queueSize : ℤ) (quality : ℕ) (h : s.producer ≠ .idle) : ∃ label s',
    isSubmitStep label = true ∧ DispatchStep queueSize quality s label s' := by
  cases hproducer : s.producer with
  | idle => exact absurd hproducer h
  | putting item =>
    by_cases hfull : queueFull queueSize s.queue
    · exact ⟨.full, _, rfl, .full hproducer hfull⟩
    · exact ⟨.put item, _, rfl, .put hproducer hfull⟩
  | evicting item =>
    cases hqueue : s.queue with
    | nil => exact ⟨.empty, _, rfl, .empty hproducer hqueue⟩
    | cons oldest rest => exact ⟨.evict oldest, _, rfl, .evict hproducer hqueue⟩
  | discarding item => exact ⟨.discard, _, rfl, .discard hproducer⟩

/-! ### Every run -/

/-- Every answer of `task_done` to the worker so far was a success. -/
def TaskDoneOk : DispatchLabel Image → Prop
  | .called ⟨.taskDone, answer⟩ => answer = .ok ()
  | _ => True

lemma taskDoneOk_step (hfollows : WorkerFollows quality s.worker) (hcount : TasksCounted s)
    (h : DispatchStep queueSize quality s label s') : TaskDoneOk label := by
  cases h with
  | @call item past op answer k hbusy hop =>
    cases op with
    | taskDone => exact absurd rfl hop
    | _ => trivial
  | taskDone hbusy =>
    rw [hbusy] at hfollows
    obtain ⟨link, hreach⟩ := hfollows
    unfold TasksCounted at hcount
    rw [hbusy, workerUnmarked, taskDones_past hreach] at hcount
    change (finishTask s.unfinished).1 = .ok ()
    rw [finishTask_ok (by omega)]
  | _ => trivial

lemma taskDoneOk_run (h : DispatchRun queueSize quality labels s) :
    ∀ label ∈ labels, TaskDoneOk label := by
  induction h with
  | nil => simp
  | snoc hrun hstep ih =>
    intro label hmem
    rcases List.mem_append.mp hmem with hmem | hmem
    · exact ih label hmem
    · obtain rfl := List.mem_singleton.mp hmem
      exact taskDoneOk_step (follows_run hrun).1 (tasksCounted_run hrun) hstep

/-- What holds of the buffer after the labels of a run. -/
structure BufferLaw (queueSize : ℤ) (quality : ℕ) (labels : List (DispatchLabel Image))
    (s : AlertDispatcher Image) : Prop where
  bounded : (s.queue.length : ℤ) ≤ queueSize
  onePlace : ∃ ledger, BufferLedger labels s ledger
  inOrder : labels.filterMap enqueued = labels.filterMap dequeued ++ s.queue
  allEnqueued : labels.filterMap submitted = labels.filterMap enqueued ++ pendingItem s.producer
  submitShort : ∀ before item during, labels = before ++ [.submit item] ++ during →
    (∀ label ∈ during, submitted label = none) →
    during.countP isPutAttempt ≤ 2 ∧ during.countP isEviction ≤ 1 ∧ during.countP isSubmitStep ≤ 4
  submitProceeds : s.producer ≠ .idle → ∃ label s', isSubmitStep label = true ∧
    DispatchStep queueSize quality s label s'
  unfinished : s.unfinished =
    s.queue.length + workerUnmarked s.worker + producerUnmarked s.producer
  evictedMarked : ∀ item, s.producer = .discarding item → (finishTask s.unfinished).1 = .ok ()
  workerMarked : ∀ answer : Except Exn Unit, .called ⟨.taskDone, answer⟩ ∈ labels → answer = .ok ()

/-- In every interleaving of detector and worker the buffer is bounded, loses nothing but what it
evicts, keeps the order, and counts its unfinished tasks exactly. -/
theorem buffer_conserves (hsize : 1 ≤ queueSize) (h : DispatchRun queueSize quality labels s) :
    BufferLaw queueSize quality labels s := by
  obtain ⟨gone, hgone⟩ := gone_run h
  constructor
  · exact bounded_run hsize h
  · exact ⟨_, hgone.ledger (submitted_run h)⟩
  · exact hgone.order
  · exact submitted_run h
  · rintro before item during rfl hduring
    have hphase := phase_run hsize hduring h
    unfold Phase PhaseAt at hphase
    split at hphase <;> omega
  · exact submit_proceeds queueSize quality
  · exact tasksCounted_run h
  · intro item hdiscarding
    exact discard_ok (tasksCounted_run h) hdiscarding
  · intro answer hmem
    exact taskDoneOk_run h _ hmem

/-- A full buffer of one item: the second submit evicts the first item. -/
def headDrop : List (DispatchLabel Unit) :=
  [.submit diskItem, .put diskItem, .submit diskItem, .full, .evict diskItem, .discard, .put diskItem]

lemma headDrop_run : ∃ s, DispatchRun 1 85 headDrop s := by
  have hsubmit := Transition.Run.single
    (show DispatchStep 1 85 (AlertDispatcher.start Unit) (.submit diskItem) _ from .submit rfl)
  have hput := hsubmit.snoc (show DispatchStep 1 85 _ (.put diskItem) _ from
    .put rfl (by simp [queueFull, AlertDispatcher.start]))
  have hsubmit' := hput.snoc (show DispatchStep 1 85 _ (.submit diskItem) _ from .submit rfl)
  have hfull := hsubmit'.snoc (show DispatchStep 1 85 _ .full _ from
    .full rfl (by simp [queueFull, AlertDispatcher.start]))
  have hevict := hfull.snoc (show DispatchStep 1 85 _ (.evict diskItem) _ from .evict rfl rfl)
  have hdiscard := hevict.snoc (show DispatchStep 1 85 _ .discard _ from .discard rfl)
  have hput' := hdiscard.snoc (show DispatchStep 1 85 _ (.put diskItem) _ from
    .put rfl (by simp [queueFull]))
  exact ⟨_, hput'⟩

theorem buffer_conserves_headDrop : ∃ s, DispatchRun 1 85 headDrop s ∧
    BufferLaw 1 85 headDrop s := by
  obtain ⟨s, hrun⟩ := headDrop_run
  exact ⟨s, hrun, buffer_conserves le_rfl hrun⟩

end IntruderWatch.Proofs
