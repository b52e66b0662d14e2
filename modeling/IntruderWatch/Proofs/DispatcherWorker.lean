import IntruderWatch.Dispatcher

/-!
# What the alert worker does with an item

The body of the worker's loop always returns and marks its item done once; it attempts to publish
exactly if neither `makedirs` nor `imwrite` raises. The two threads interleaved change nothing
about this, since the calls of every finished item are a run of the body.
-/

namespace IntruderWatch.Proofs
open Py Interaction

variable {Image : Type}

/-! ### Readings of a trace -/

/-- A call to the broker, a pause or a log line. -/
def IsBroker : DispatchCall Image → Prop
  | .makedirs _ | .imwrite _ _ _ | .taskDone => False
  | _ => True

/-- A call that connects, closes or pauses. -/
def IsLinkCall : DispatchCall Image → Prop
  | .makedirs _ | .imwrite _ _ _ | .taskDone | .basicPublish _ _ _ | .logPublishFailed _ _ => False
  | _ => True

lemma IsLinkCall.isBroker {op : DispatchCall Image} (h : IsLinkCall op) : IsBroker op := by
  cases op with
  | makedirs | imwrite | taskDone => exact h
  | _ => trivial

abbrev DispatchEvent (Image : Type) := (op : DispatchCall Image) × DispatchAns op

def isTaskDone : DispatchEvent Image → Bool
  | ⟨.taskDone, _⟩ => true
  | _ => false

/-- Hands the body to the broker, or logs the first attempt as failed. -/
def isAttempt (body : Str) : DispatchEvent Image → Bool
  | ⟨.basicPublish _ routingKey b, _⟩ => routingKey = alertQueue && b = body
  | ⟨.logPublishFailed attempt _, _⟩ => attempt = 1
  | _ => false

def isError {α : Type} : Except Exn α → Bool
  | .ok _ => false
  | .error _ => true

/-- Creating the directory or writing the image raises. -/
def savingRaises : DispatchEvent Image → Bool
  | ⟨.makedirs _, answer⟩ => isError answer
  | ⟨.imwrite _ _ _, answer⟩ => isError answer
  | _ => false

def taskDones (t : DispatchTrace Image) : ℕ :=
  t.countP isTaskDone

def Attempted (body : Str) (t : DispatchTrace Image) : Prop :=
  t.any (isAttempt body) = true

def SavingRaised (t : DispatchTrace Image) : Prop :=
  t.any savingRaises = true

/-! ### Publishing -/

section Publish

variable {link link' : BrokerLink} {t : DispatchTrace Image}

lemma uses_declareQueues (channel : ℕ) (queueNames : List Str) :
    Uses IsLinkCall (declareQueues channel queueNames : DispatchProc Image Unit) := by
  induction queueNames with
  | nil => exact Uses.pure ()
  | cons q queueNames ih =>
    unfold declareQueues
    apply Uses.perform_bind trivial
    intro answer
    exact Uses.evaluate_bind (fun _ => ih)

lemma uses_openLink (queueNames : List Str) :
    Uses IsLinkCall (openLink queueNames : DispatchProc Image (ℕ × ℕ)) := by
  unfold openLink
  apply Uses.perform_bind trivial
  intro connection
  apply Uses.evaluate_bind
  intro connection
  apply Uses.perform_bind trivial
  intro channel
  apply Uses.evaluate_bind
  intro channel
  exact (uses_declareQueues channel queueNames).bind (fun _ => Uses.pure _)

lemma uses_connectLoop (queueNames : List Str) (delay left : ℕ) :
    Uses IsLinkCall (connectLoop queueNames delay left : DispatchProc Image (ℕ × ℕ)) := by
  induction left with
  | zero => exact Uses.evaluate (Except.error Exn.connectionError)
  | succ left ih =>
    unfold connectLoop
    apply Uses.tryCatch (uses_openLink queueNames)
    intro e
    split_ifs
    · exact Uses.perform_bind trivial (fun _ => ih)
    · exact ih
    · exact Uses.evaluate (Except.error e)

lemma uses_linkDown : Uses IsLinkCall (linkDown : DispatchProc Image Bool) := by
  unfold linkDown
  apply Uses.get.bind
  intro link
  cases link.connection with
  | none => exact Uses.pure true
  | some connection =>
    apply Uses.perform_bind trivial
    intro closed
    split_ifs
    · exact Uses.pure true
    · cases link.channel with
      | none => exact Uses.pure true
      | some channel => exact Uses.perform trivial

lemma uses_ensureChannel : Uses IsLinkCall (ensureChannel : DispatchProc Image Unit) := by
  unfold ensureChannel
  apply uses_linkDown.bind
  intro down
  split_ifs
  · apply (uses_connectLoop _ _ _).bind
    intro link
    exact Uses.modify _
  · exact Uses.pure ()

lemma uses_publishOnce (body : Str) : Uses IsBroker (publishOnce body : DispatchProc Image Unit) := by
  unfold publishOnce
  apply (uses_ensureChannel.mono (fun _ => IsLinkCall.isBroker)).bind
  intro _
  apply Uses.get.bind
  intro link
  cases link.channel with
  | none => exact Uses.evaluate (Except.error Exn.attributeError)
  | some channel => exact Uses.perform_bind trivial (fun answer => Uses.evaluate answer)

lemma uses_closeQuietly {handle : Option ℕ} {isClosed : ℕ → DispatchProc Image Bool}
    {close : ℕ → DispatchProc Image (Except Exn Unit)} (hclosed : ∀ n, Uses IsLinkCall (isClosed n))
    (hclose : ∀ n, Uses IsLinkCall (close n)) : Uses IsLinkCall (closeQuietly handle isClosed close) := by
  unfold closeQuietly
  refine Uses.tryCatch ?_ (fun _ => Uses.pure ())
  cases handle with
  | none => exact Uses.pure ()
  | some n =>
    apply (hclosed n).bind
    intro closed
    split_ifs
    · exact (hclose n).bind (fun answer => Uses.evaluate answer)
    · exact Uses.pure ()

lemma uses_resetChannel : Uses IsLinkCall (resetChannel : DispatchProc Image Unit) := by
  unfold resetChannel
  apply Uses.get.bind
  intro link
  apply (uses_closeQuietly (fun _ => Uses.perform trivial) (fun _ => Uses.perform trivial)).bind
  intro _
  apply (uses_closeQuietly (fun _ => Uses.perform trivial) (fun _ => Uses.perform trivial)).bind
  intro _
  exact Uses.modify _

/-- Publishing touches neither the disk nor the queue. -/
lemma uses_publishLoop (body : Str) (attempt left : ℕ) :
    Uses IsBroker (publishLoop body attempt left : DispatchProc Image Bool) := by
  induction left generalizing attempt with
  | zero => exact Uses.pure false
  | succ left ih =>
    unfold publishLoop
    apply Uses.tryCatch ((uses_publishOnce body).bind (fun _ => Uses.pure true))
    intro e
    apply Uses.perform_bind trivial
    intro _
    apply (uses_resetChannel.mono (fun _ => IsLinkCall.isBroker)).bind
    intro _
    split_ifs
    · exact Uses.perform_bind trivial (fun _ => ih (attempt + 1))
    · exact ih (attempt + 1)

/-- A publish that returns has handed over the body. -/
lemma publishOnce_ok {body : Str} (h : Exec (publishOnce body) link t (.ok ()) link') :
    Attempted body t := by
  unfold publishOnce at h
  rcases exec_bind.mp h with ⟨e, -, he⟩ | ⟨t₁, t₂, _, link₁, rfl, -, h⟩
  · cases he
  rw [exec_get_bind] at h
  cases hchannel : link₁.channel with
  | none =>
    rw [hchannel] at h
    cases (exec_throw.mp h).2.1
  | some channel =>
    rw [hchannel] at h
    obtain ⟨answer, t₃, rfl, -⟩ := exec_perform_bind.mp h
    simp [Attempted, isAttempt]

lemma publishLoop_attempted {body : Str} {left : ℕ} {r : Except Exn Bool}
    (h : Exec (publishLoop body 1 (left + 1)) link t r link') : Attempted body t := by
  unfold publishLoop at h
  rcases exec_tryCatch.mp h with ⟨b, hb, -⟩ | ⟨t₁, t₂, e, link₁, rfl, -, h⟩
  · rcases exec_bind.mp hb with ⟨e, -, he⟩ | ⟨t₁, t₂, _, link₁, rfl, hpublish, -⟩
    · cases he
    · have hattempted := publishOnce_ok hpublish
      unfold Attempted at hattempted ⊢
      rw [List.any_append, hattempted, Bool.true_or]
  · obtain ⟨answer, t₃, rfl, -⟩ := exec_perform_bind.mp h
    simp [Attempted, isAttempt]

end Publish

/-! ### One item -/

section Item

variable {quality : ℕ} {item : AlertItem Image} {link link' : BrokerLink} {t : DispatchTrace Image}
  {r : Except Exn Unit}

lemma taskDones_append (t₁ t₂ : DispatchTrace Image) :
    taskDones (t₁ ++ t₂) = taskDones t₁ + taskDones t₂ :=
  List.countP_append

lemma taskDones_broker (h : ∀ c ∈ t, IsBroker c.1) : taskDones t = 0 := by
  rw [taskDones, List.countP_eq_zero]
  rintro ⟨op, answer⟩ hmem hdone
  cases op with
  | taskDone => exact h _ hmem
  | _ => cases hdone

lemma not_savingRaised_broker (h : ∀ c ∈ t, IsBroker c.1) : t.any savingRaises = false := by
  rw [List.any_eq_false]
  rintro ⟨op, answer⟩ hmem hraises
  cases op with
  | makedirs => exact h _ hmem
  | imwrite => exact h _ hmem
  | _ => cases hraises

/-- Every run of the publishing attempts to publish, with broker calls only. -/
lemma publish_spec {payload : AlertPayload} {r : Except Exn Bool}
    (h : Exec (publishWithRetry payload 3) link t r link') :
    (∀ c ∈ t, IsBroker c.1) ∧ Attempted (dumps payload.toJson) t :=
  ⟨(uses_publishLoop _ _ _).calls _ _ _ _ h, publishLoop_attempted h⟩

/-- What the body of the inner `try` statement does, up to its exception. -/
lemma saveAndPublish_spec (h : Exec (saveAndPublish quality item) link t r link') :
    taskDones t = 0 ∧ (Attempted (dumps item.payload.toJson) t ↔ ¬ SavingRaised t) := by
  unfold saveAndPublish at h
  obtain ⟨made, t₁, rfl, h₁⟩ := exec_perform_bind.mp h
  rcases exec_evaluate_bind.mp h₁ with ⟨e, rfl, rfl, -, -⟩ | ⟨⟨⟩, rfl, h₂⟩
  · exact ⟨rfl, by simp [Attempted, SavingRaised, isAttempt, savingRaises, isError]⟩
  obtain ⟨written, t₂, rfl, h₃⟩ := exec_perform_bind.mp h₂
  rcases exec_evaluate_bind.mp h₃ with ⟨e, rfl, rfl, -, -⟩ | ⟨success, rfl, h₄⟩
  · exact ⟨rfl, by simp [Attempted, SavingRaised, isAttempt, savingRaises, isError]⟩
  have hpublish : (∀ c ∈ t₂, IsBroker c.1) ∧ Attempted (dumps item.payload.toJson) t₂ := by
    rcases exec_bind.mp h₄ with ⟨e, h₅, -⟩ | ⟨t₃, t₄, b, link₁, rfl, h₅, h₆⟩
    · exact publish_spec h₅
    · obtain ⟨rfl, -, -⟩ := exec_pure.mp h₆
      rw [List.append_nil]
      exact publish_spec h₅
  obtain ⟨hbroker, hattempted⟩ := hpublish
  refine ⟨?_, iff_of_true ?_ ?_⟩
  · have hcount := taskDones_broker hbroker
    unfold taskDones at hcount ⊢
    simpa [isTaskDone] using hcount
  · unfold Attempted at hattempted ⊢
    rw [List.any_cons, List.any_cons, hattempted, Bool.or_true, Bool.or_true]
  · unfold SavingRaised
    rw [List.any_cons, List.any_cons, not_savingRaised_broker hbroker]
    exact Bool.false_ne_true

/-- A call that neither publishes nor saves changes nothing about the alert. -/
lemma attempted_iff_snoc {body : Str} {c : DispatchEvent Image} (hattempt : isAttempt body c = false)
    (hsaves : savingRaises c = false) (h : Attempted body t ↔ ¬ SavingRaised t) :
    Attempted body (t ++ [c]) ↔ ¬ SavingRaised (t ++ [c]) := by
  unfold Attempted SavingRaised at h ⊢
  rw [List.any_append, List.any_append, List.any_cons, List.any_cons, hattempt, hsaves]
  simpa using h

/-- The inner `try` statement marks the item done whatever happened before. -/
lemma innerTry_spec (h : Exec (withFinally (tryCatch (saveAndPublish quality item) (fun _ => pure ()))
      (do evaluate (← taskDone))) link t r link') :
    taskDones t = 1 ∧ (Attempted (dumps item.payload.toJson) t ↔ ¬ SavingRaised t) := by
  obtain ⟨t₁, t₂, r₁, link₁, r₂, rfl, htry, hdone, -⟩ := exec_withFinally.mp h
  have hsave : taskDones t₁ = 0 ∧
      (Attempted (dumps item.payload.toJson) t₁ ↔ ¬ SavingRaised t₁) := by
    rcases exec_tryCatch.mp htry with ⟨a, hbody, -⟩ | ⟨t₃, t₄, e, link₂, rfl, hbody, hpass⟩
    · exact saveAndPublish_spec hbody
    · obtain ⟨rfl, -, -⟩ := exec_pure.mp hpass
      rw [List.append_nil]
      exact saveAndPublish_spec hbody
  obtain ⟨hcount, hiff⟩ := hsave
  obtain ⟨answer, t₃, rfl, heval⟩ := exec_perform_bind.mp hdone
  obtain ⟨rfl, -, -⟩ := exec_evaluate.mp heval
  refine ⟨?_, attempted_iff_snoc rfl rfl hiff⟩
  rw [taskDones_append, hcount]
  rfl

/-- The loop body always returns, marks the item done once, and attempts to publish exactly if
saving did not raise. -/
lemma workerBody_spec (h : Exec (workerBody quality item) link t r link') :
    r = .ok () ∧ taskDones t = 1 ∧
      (Attempted (dumps item.payload.toJson) t ↔ ¬ SavingRaised t) := by
  unfold workerBody at h
  rcases exec_tryCatch.mp h with ⟨⟨⟩, hbody, rfl⟩ | ⟨t₁, t₂, e, link₁, rfl, hbody, hpause⟩
  · exact ⟨rfl, innerTry_spec hbody⟩
  · obtain ⟨hcount, hiff⟩ := innerTry_spec hbody
    obtain ⟨answer, rfl, rfl, -⟩ := exec_perform.mp hpause
    refine ⟨rfl, ?_, attempted_iff_snoc rfl rfl hiff⟩
    rw [taskDones_append, hcount]
    rfl

end Item

/-! ### Both threads -/

section Runs

variable {queueSize : ℤ} {quality : ℕ} {s s' : AlertDispatcher Image}
  {labels : List (DispatchLabel Image)} {label : DispatchLabel Image}

/-- The worker is alive, and with an item it is on the way of a run of its loop body. -/
def WorkerFollows (quality : ℕ) : WorkerThread Image → Prop
  | .waiting _ => True
  | .busy item past rest => ∃ link, ((workerBody quality item).start link).Reaches past rest
  | .dead => False

/-- The calls of a finished item are a run of the loop body. -/
def ReturnFollows (quality : ℕ) : DispatchLabel Image → Prop
  | .returned item t r => ∃ link link', Exec (workerBody quality item) link t r link'
  | _ => True

lemma follows_step (hs : WorkerFollows quality s.worker)
    (h : DispatchStep queueSize quality s label s') :
    WorkerFollows quality s'.worker ∧ ReturnFollows quality label := by
  cases h with
  | submit | put | full | evict | empty | discard => exact ⟨hs, trivial⟩
  | take => exact ⟨⟨_, .start⟩, trivial⟩
  | call hbusy =>
    rw [hbusy] at hs
    obtain ⟨link, hreach⟩ := hs
    exact ⟨⟨link, hreach.answered _⟩, trivial⟩
  | taskDone hbusy =>
    rw [hbusy] at hs
    obtain ⟨link, hreach⟩ := hs
    exact ⟨⟨link, hreach.answered _⟩, trivial⟩
  | returned hbusy =>
    rw [hbusy] at hs
    obtain ⟨link, hreach⟩ := hs
    have hexec := hreach.runs_of_ret
    obtain ⟨rfl, -, -⟩ := workerBody_spec hexec
    exact ⟨trivial, link, _, hexec⟩

lemma follows_run (h : DispatchRun queueSize quality labels s) :
    WorkerFollows quality s.worker ∧ ∀ label ∈ labels, ReturnFollows quality label := by
  apply h.invariant (fun labels s =>
    WorkerFollows quality s.worker ∧ ∀ label ∈ labels, ReturnFollows quality label)
  · exact ⟨trivial, by simp⟩
  · rintro labels s label s' ⟨hworker, hreturns⟩ hstep
    obtain ⟨hworker', hlabel⟩ := follows_step hworker hstep
    refine ⟨hworker', ?_⟩
    intro l hl
    rcases List.mem_append.mp hl with hl | hl
    · exact hreturns l hl
    · obtain rfl := List.mem_singleton.mp hl
      exact hlabel

/-- The worker alone brings its item to an end, whatever the outcomes of its calls are. -/
lemma worker_returns {item : AlertItem Image} (oracle : ℕ → (op : DispatchCall Image) → DispatchAns op)
    (rest : Prog (DispatchCall Image) DispatchAns (Except Exn Unit × BrokerLink)) :
    ∀ (past : DispatchTrace Image) (s : AlertDispatcher Image), s.worker = .busy item past rest →
    ∃ (calls : DispatchTrace Image) (r : Except Exn Unit) (s' : AlertDispatcher Image),
      Transition.Run (DispatchStep queueSize quality) s
        (calls.map .called ++ [.returned item (past ++ calls) r]) s' ∧
      ∀ i (hi : i < calls.length), isTaskDone calls[i] = false →
        calls[i].2 = oracle (past.length + i) calls[i].1 := by
  induction rest with
  | ret result =>
    intro past s hbusy
    obtain ⟨r, link⟩ := result
    have hrun : Transition.Run (DispatchStep queueSize quality) s [.returned item past r] _ :=
      Transition.Run.single (.returned hbusy)
    exact ⟨[], r, _, by simpa using hrun, by simp⟩
  | call op k ih =>
    intro past s hbusy
    -- the answer of `task_done` is the queue's, every other one the oracle's
    obtain ⟨answer, s₁, hstep, hbusy₁, hanswer⟩ : ∃ (answer : DispatchAns op) (s₁ : _),
        DispatchStep queueSize quality s (.called ⟨op, answer⟩) s₁ ∧
        s₁.worker = .busy item (past ++ [⟨op, answer⟩]) (k answer) ∧
        (isTaskDone ⟨op, answer⟩ = false → answer = oracle past.length op) := by
      cases op with
      | taskDone => exact ⟨_, _, .taskDone hbusy, rfl, fun h => by cases h⟩
      | _ => exact ⟨oracle past.length _, _, .call hbusy (by simp), rfl, fun _ => rfl⟩
    obtain ⟨calls, r, s', hrun, horacle⟩ := ih answer _ _ hbusy₁
    refine ⟨⟨op, answer⟩ :: calls, r, s', ?_, ?_⟩
    · have happend := (Transition.Run.single hstep).append hrun
      simpa using happend
    · intro i hi hdone
      cases i with
      | zero => exact hanswer hdone
      | succ i =>
        have hi' : i < calls.length := by simpa using hi
        have hnext := horacle i hi' hdone
        rw [List.length_append, List.length_singleton] at hnext
        rw [List.getElem_cons_succ, hnext]
        congr 1
        omega

/-- The alert was handed over, the item marked done once, and the worker goes on. -/
structure AlertKept (item : AlertItem Image) (t : DispatchTrace Image) (r : Except Exn Unit) :
    Prop where
  attempted : Attempted (dumps item.payload.toJson) t
  doneOnce : taskDones t = 1
  goesOn : r = .ok ()

/-- In every run of the two threads an item is brought to its end whatever its calls answer, and
its alert is kept if and only if neither `makedirs` nor `imwrite` raised. -/
theorem alert_kept_iff (h : DispatchRun queueSize quality labels s) :
    (∀ item t r, .returned item t r ∈ labels → (AlertKept item t r ↔ ¬ SavingRaised t)) ∧
    ∀ item past rest, s.worker = .busy item past rest →
      ∀ oracle : ℕ → (op : DispatchCall Image) → DispatchAns op, ∃ calls r s',
        Transition.Run (DispatchStep queueSize quality) s
          (calls.map .called ++ [.returned item (past ++ calls) r]) s' ∧
        ∀ i (hi : i < calls.length), isTaskDone calls[i] = false →
          calls[i].2 = oracle (past.length + i) calls[i].1 := by
  constructor
  · intro item t r hmem
    obtain ⟨link, link', hexec⟩ := (follows_run h).2 _ hmem
    obtain ⟨hok, hdone, hiff⟩ := workerBody_spec hexec
    rw [← hiff]
    constructor
    · intro hkept
      exact hkept.attempted
    · intro hattempted
      exact ⟨hattempted, hdone, hok⟩
  · intro item past rest hbusy oracle
    exact worker_returns oracle rest past s hbusy

end Runs

/-! ### A disk that fails -/

section Disk

/-- An alert of the camera `1`, with a frame of no interest. -/
def diskItem : AlertItem Unit where
  frame := ()
  filename := lit "/app/captures/camera_1/2026-10-03/det.jpg"
  payload := {
    camera := .int (boolInteger true)
    hashable := ⟨_, rfl⟩
    timestamp := lit "2026-10-03 02:15:30.000000"
    filename := lit "/app/captures/camera_1/2026-10-03/det.jpg"
    humanCount := boolInteger true
    maxConfidence := .ofNat 1 (by norm_num)
    boxes := [] }

/-- `makedirs` raises, then the item is marked done. -/
def diskTrace : DispatchTrace Unit :=
  [⟨.makedirs (dirname diskItem.filename), Except.error Exn.osError⟩,
    ⟨.taskDone, Except.ok ()⟩]

lemma diskFails_run : ∃ labels s, DispatchRun 500 85 labels s ∧
    .returned diskItem diskTrace (.ok ()) ∈ labels := by
  have hsubmit := Transition.Run.single
    (show DispatchStep 500 85 (AlertDispatcher.start Unit) (.submit diskItem) _ from .submit rfl)
  have hput := hsubmit.snoc (show DispatchStep 500 85 _ (.put diskItem) _ from
    .put rfl (by simp [queueFull, AlertDispatcher.start]))
  have htake := hput.snoc (show DispatchStep 500 85 _ (.take diskItem) _ from .take rfl rfl)
  have hmakedirs := htake.snoc (show DispatchStep 500 85 _
    (.called ⟨.makedirs (dirname diskItem.filename), Except.error Exn.osError⟩) _ from
    .call rfl (by simp))
  have hdone := hmakedirs.snoc (show DispatchStep 500 85 _
    (.called ⟨.taskDone, Except.ok ()⟩) _ from .taskDone rfl)
  have hreturned := hdone.snoc (show DispatchStep 500 85 _
    (.returned diskItem diskTrace (.ok ())) _ from .returned rfl)
  exact ⟨_, _, hreturned, by simp⟩

/-- A directory that cannot be created costs the alert. -/
theorem makedirs_costs_alert : ¬ ∀ labels s item t r,
    @DispatchRun Unit 500 85 labels s → .returned item t r ∈ labels →
    AlertKept item t r := by
  intro hclaim
  obtain ⟨labels, s, hrun, hmem⟩ := diskFails_run
  have hkept := (hclaim labels s diskItem diskTrace (.ok ()) hrun hmem).attempted
  exact absurd hkept (by simp [Attempted, diskTrace, isAttempt])

/-- The alert of the failing disk is not kept, since saving it raised. -/
theorem alert_kept_iff_diskFails : SavingRaised diskTrace ∧ ¬ AlertKept diskItem diskTrace (.ok ()) := by
  obtain ⟨labels, s, hrun, hmem⟩ := diskFails_run
  have hraised : SavingRaised diskTrace := rfl
  refine ⟨hraised, ?_⟩
  rw [(alert_kept_iff hrun).1 diskItem diskTrace (.ok ()) hmem]
  exact not_not.mpr hraised

end Disk

end IntruderWatch.Proofs
