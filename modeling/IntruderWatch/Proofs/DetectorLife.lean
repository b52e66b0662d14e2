import IntruderWatch.DetectorProcess
import IntruderWatch.Library.FloatOrder
import IntruderWatch.Library.Histories
import IntruderWatch.Proofs.FrameAcknowledgement
import IntruderWatch.Proofs.PhotoSelection
import IntruderWatch.Proofs.StartDelays

/-!
# Health and memory of a detector

For every interleaving of the consumer with the memory manager and the requests for its health: the
detector is found healthy exactly while it may receive frames, its connection is closed once and last,
and its memory is parked once for each time without frames.
-/

namespace IntruderWatch.Proofs
open Py Interaction History

variable {Image : Type}

/-! ### Readiness -/

/-- The labels after which there is no other. -/
def LifeLabel.isLast : LifeLabel Image → Bool
  | .delayed _ (.error _) | .modelLoaded (.error _) | .connected _ (.error _) | .basicQos _ (.error _)
  | .captures _ (.error _) | .closed _ _ => true
  | _ => false

/-- The detector has announced that it is ready, and has not taken it back. -/
def Serving (past : List (LifeLabel Image)) : Prop := .ready ∈ past ∧ .unready ∉ past

/-- The model is loaded and the broker has accepted the connection with its prefetch count. -/
structure Initialized (past : List (LifeLabel Image)) (connection channel : ℕ) : Prop where
  manager : .managerStarted ∈ past
  model : .modelLoaded (.ok ()) ∈ past
  link : ∃ calls, .connected calls (.ok (connection, channel)) ∈ past
  qos : .basicQos channel (.ok ()) ∈ past

def IsHealthPath (path : Str) : Prop := path = lit "/healthz" ∨ path = lit "/health"

def LifeRule (past : List (LifeLabel Image)) : LifeLabel Image → Prop
  | .probed path answer => IsHealthPath path →
      (Serving past ∧ answer = some ⟨200, lit "OK\n"⟩) ∨
        (¬ Serving past ∧ answer = some ⟨503, lit "INITIALIZING\n"⟩)
  | .ready => (∃ connection channel, Initialized past connection channel) ∧ .ready ∉ past
  | .basicConsume channel _ => Serving past ∧ ∃ connection, Initialized past connection channel
  | .arrived _ _ | .handled _ _ | .unready => Serving past
  | .closed connection _ => .unready ∈ past ∧ ∃ channel, Initialized past connection channel
  | _ => True

/-- What a label has to do with those before it. -/
def LifeLaw (past : List (LifeLabel Image)) (label : LifeLabel Image) : Prop :=
  (∀ l ∈ past, LifeLabel.isLast l = false) ∧ LifeRule past label

/-- What the past has to show for the consumer to stand where it does. -/
def PhaseLaw (past : List (LifeLabel Image)) : ConsumerPhase → Prop
  | .starting | .delayed => .ready ∉ past ∧ .unready ∉ past
  | .loading => .ready ∉ past ∧ .unready ∉ past ∧ .managerStarted ∈ past
  | .connecting => .ready ∉ past ∧ .unready ∉ past ∧ .managerStarted ∈ past ∧
      .modelLoaded (.ok ()) ∈ past
  | .linked connection channel => .ready ∉ past ∧ .unready ∉ past ∧ .managerStarted ∈ past ∧
      .modelLoaded (.ok ()) ∈ past ∧ ∃ calls, .connected calls (.ok (connection, channel)) ∈ past
  | .tuned connection channel => .ready ∉ past ∧ .unready ∉ past ∧ Initialized past connection channel
  | .prepared connection channel | .subscribing connection channel =>
      Serving past ∧ Initialized past connection channel
  | .consuming connection | .stamping connection _ _ | .handling connection _ | .stopping connection =>
      Serving past ∧ ∃ channel, Initialized past connection channel
  | .closing connection => .unready ∈ past ∧ ∃ channel, Initialized past connection channel
  | .ended _ => True

structure LifeInv (past : List (LifeLabel Image)) (p : DetectorProcess) : Prop where
  law : Along LifeLaw past
  alive : p.consumer.isEnded = false → ∀ l ∈ past, LifeLabel.isLast l = false
  flag : p.consumer.isEnded = false → (p.shared.isReady = true ↔ Serving past)
  phase : PhaseLaw past p.consumer

section Readiness

variable {env : DetectorEnv Image} {past : List (LifeLabel Image)} {label : LifeLabel Image}
  {p p' : DetectorProcess} {start : WallTime} {connection channel : ℕ}

lemma Initialized.snoc (h : Initialized past connection channel) :
    Initialized (past ++ [label]) connection channel := by
  obtain ⟨calls, hlink⟩ := h.link
  exact ⟨List.mem_append_left _ h.manager, List.mem_append_left _ h.model,
    ⟨calls, List.mem_append_left _ hlink⟩, List.mem_append_left _ h.qos⟩

lemma not_mem_snoc {l : LifeLabel Image} (h : l ∉ past) (hne : l ≠ label) : l ∉ past ++ [label] := by
  rw [List.mem_append, List.mem_singleton, not_or]
  exact ⟨h, hne⟩

/-- Labels that do not touch the flag. -/
lemma serving_snoc (hready : label ≠ .ready) (hunready : label ≠ .unready) :
    Serving (past ++ [label]) ↔ Serving past := by
  simp only [Serving, List.mem_append, List.mem_singleton, hready.symm, hunready.symm, or_false]

lemma LifeInv.snoc (hp : LifeInv past p) (halive : p.consumer.isEnded = false)
    (hrule : LifeRule past label) (hlast : p'.consumer.isEnded = false → LifeLabel.isLast label = false)
    (hflag : p'.consumer.isEnded = false → (p'.shared.isReady = true ↔ Serving (past ++ [label])))
    (hphase : PhaseLaw (past ++ [label]) p'.consumer) : LifeInv (past ++ [label]) p' := by
  refine ⟨along_snoc_iff.mpr ⟨hp.law, hp.alive halive, hrule⟩, ?_, hflag, hphase⟩
  intro hend l hl
  rcases List.mem_append.mp hl with hl | hl
  · exact hp.alive halive l hl
  · rw [List.mem_singleton.mp hl]
    exact hlast hend

/-- A label that leaves the flag as it is. -/
lemma LifeInv.keep (hp : LifeInv past p) (halive : p.consumer.isEnded = false)
    (hrule : LifeRule past label) (hlast : p'.consumer.isEnded = false → LifeLabel.isLast label = false)
    (hready : label ≠ .ready) (hunready : label ≠ .unready)
    (hshared : p'.shared.isReady = p.shared.isReady)
    (hphase : PhaseLaw (past ++ [label]) p'.consumer) : LifeInv (past ++ [label]) p' := by
  refine hp.snoc halive hrule hlast (fun _ => ?_) hphase
  rw [hshared, serving_snoc hready hunready]
  exact hp.flag halive

lemma phaseLaw_snoc {c : ConsumerPhase} (hready : label ≠ .ready) (hunready : label ≠ .unready)
    (h : PhaseLaw past c) : PhaseLaw (past ++ [label]) c := by
  have hnone : .ready ∉ past → .ready ∉ past ++ [label] := fun h => not_mem_snoc h hready.symm
  have hnone' : .unready ∉ past → .unready ∉ past ++ [label] := fun h => not_mem_snoc h hunready.symm
  have hmem : ∀ {l}, l ∈ past → l ∈ past ++ [label] := fun h => List.mem_append_left _ h
  have hserving : Serving past → Serving (past ++ [label]) := (serving_snoc hready hunready).mpr
  cases c with
  | starting | delayed => exact ⟨hnone h.1, hnone' h.2⟩
  | loading => exact ⟨hnone h.1, hnone' h.2.1, hmem h.2.2⟩
  | connecting => exact ⟨hnone h.1, hnone' h.2.1, hmem h.2.2.1, hmem h.2.2.2⟩
  | linked connection channel =>
    obtain ⟨h₁, h₂, h₃, h₄, calls, h₅⟩ := h
    exact ⟨hnone h₁, hnone' h₂, hmem h₃, hmem h₄, calls, hmem h₅⟩
  | tuned connection channel => exact ⟨hnone h.1, hnone' h.2.1, h.2.2.snoc⟩
  | prepared | subscribing => exact ⟨hserving h.1, h.2.snoc⟩
  | consuming | stamping | handling | stopping =>
    obtain ⟨hs, channel, hi⟩ := h
    exact ⟨hserving hs, channel, hi.snoc⟩
  | closing connection =>
    obtain ⟨hu, channel, hi⟩ := h
    exact ⟨hmem hu, channel, hi.snoc⟩
  | ended result => trivial

/-- A call that leaves the consumer running has returned. -/
lemma ok_of_proceed {α : Type} {result : Except Exn α} {next : α → ConsumerPhase}
    (h : (ConsumerPhase.proceed next result).isEnded = false) : ∃ a, result = .ok a := by
  cases result with
  | ok a => exact ⟨a, rfl⟩
  | error e => cases h

/-- The consumer moves on or ends. -/
lemma phaseLaw_proceed {α : Type} {result : Except Exn α} {next : α → ConsumerPhase}
    (h : ∀ a, result = .ok a → PhaseLaw past (next a)) : PhaseLaw past (.proceed next result) := by
  cases result with
  | ok a => exact h a rfl
  | error e => trivial

lemma phaseLaw_proceedOrStop {result : Except Exn Unit} {next : ConsumerPhase}
    (hnext : PhaseLaw past next) (hstop : PhaseLaw past (.stopping connection)) :
    PhaseLaw past (.proceedOrStop connection next result) := by
  cases result with
  | ok a => exact hnext
  | error e => exact hstop

lemma probe_rule {path : Str} (hflag : p.shared.isReady = true ↔ Serving past) :
    LifeRule past (.probed path (wsgiApp path p.shared)) := by
  intro hpath
  have hpath' : path = lit "/healthz" ∨ path = lit "/health" := hpath
  unfold wsgiApp
  rw [if_pos hpath']
  by_cases hready : p.shared.isReady = true
  · rw [if_pos hready]
    exact Or.inl ⟨hflag.mp hready, rfl⟩
  · rw [if_neg hready]
    exact Or.inr ⟨fun hserving => hready (hflag.mpr hserving), rfl⟩

lemma LifeInv.step (hp : LifeInv past p) (h : LifeStep env p label p') :
    LifeInv (past ++ [label]) p' := by
  have hphase := hp.phase
  have hlast : label ∈ past ++ [label] := List.mem_append_right _ List.mem_cons_self
  cases h with
  | @delayed calls result hc _ =>
    rw [hc] at hphase
    refine hp.keep (by rw [hc]; rfl) trivial ?_ (by simp) (by simp) rfl (phaseLaw_proceed ?_)
    · intro hend
      obtain ⟨_, rfl⟩ := ok_of_proceed hend
      rfl
    · exact fun _ _ => ⟨not_mem_snoc hphase.1 (by simp), not_mem_snoc hphase.2 (by simp)⟩
  | managerStarted hc =>
    rw [hc] at hphase
    exact hp.keep (by rw [hc]; rfl) trivial (fun _ => rfl) (by simp) (by simp) rfl
      ⟨not_mem_snoc hphase.1 (by simp), not_mem_snoc hphase.2 (by simp), hlast⟩
  | @modelLoaded answer hc =>
    rw [hc] at hphase
    refine hp.keep (by rw [hc]; rfl) trivial ?_ (by simp) (by simp) rfl (phaseLaw_proceed ?_)
    · intro hend
      obtain ⟨_, rfl⟩ := ok_of_proceed hend
      rfl
    · rintro ⟨⟩ rfl
      exact ⟨not_mem_snoc hphase.1 (by simp), not_mem_snoc hphase.2.1 (by simp),
        List.mem_append_left _ hphase.2.2, hlast⟩
  | @connected calls result link hc _ =>
    rw [hc] at hphase
    refine hp.keep (by rw [hc]; rfl) trivial ?_ (by simp) (by simp) rfl (phaseLaw_proceed ?_)
    · intro hend
      obtain ⟨_, rfl⟩ := ok_of_proceed hend
      rfl
    · rintro ⟨connection, channel⟩ rfl
      exact ⟨not_mem_snoc hphase.1 (by simp), not_mem_snoc hphase.2.1 (by simp),
        List.mem_append_left _ hphase.2.2.1, List.mem_append_left _ hphase.2.2.2, calls, hlast⟩
  | @basicQos connection channel answer hc =>
    rw [hc] at hphase
    obtain ⟨hready, hunready, hmanager, hmodel, calls, hlink⟩ := hphase
    refine hp.keep (by rw [hc]; rfl) trivial ?_ (by simp) (by simp) rfl (phaseLaw_proceed ?_)
    · intro hend
      obtain ⟨_, rfl⟩ := ok_of_proceed hend
      rfl
    · rintro ⟨⟩ rfl
      exact ⟨not_mem_snoc hready (by simp), not_mem_snoc hunready (by simp),
        List.mem_append_left _ hmanager, List.mem_append_left _ hmodel,
        ⟨calls, List.mem_append_left _ hlink⟩, hlast⟩
  | @ready connection channel hc =>
    rw [hc] at hphase
    obtain ⟨hready, hunready, hinit⟩ := hphase
    have hserving : Serving (past ++ [.ready]) := ⟨hlast, not_mem_snoc hunready (by simp)⟩
    exact hp.snoc (by rw [hc]; rfl) ⟨⟨connection, channel, hinit⟩, hready⟩ (fun _ => rfl)
      (fun _ => iff_of_true rfl hserving) ⟨hserving, hinit.snoc⟩
  | @captures connection channel present answer hc _ =>
    rw [hc] at hphase
    refine hp.keep (by rw [hc]; rfl) trivial ?_ (by simp) (by simp) rfl (phaseLaw_proceed ?_)
    · intro hend
      obtain ⟨_, rfl⟩ := ok_of_proceed hend
      rfl
    · exact fun _ _ => ⟨(serving_snoc (by simp) (by simp)).mpr hphase.1, hphase.2.snoc⟩
  | @basicConsume connection channel answer hc =>
    rw [hc] at hphase
    have hserving : Serving (past ++ [.basicConsume channel answer]) :=
      (serving_snoc (by simp) (by simp)).mpr hphase.1
    refine hp.keep (by rw [hc]; rfl) ⟨hphase.1, connection, hphase.2⟩ (fun _ => rfl) (by simp) (by simp)
      rfl ?_
    exact phaseLaw_proceedOrStop ⟨hserving, channel, hphase.2.snoc⟩ ⟨hserving, channel, hphase.2.snoc⟩
  | @arrived connection body now hc =>
    rw [hc] at hphase
    exact hp.keep (by rw [hc]; rfl) hphase.1 (fun _ => rfl) (by simp) (by simp) rfl
      (phaseLaw_snoc (c := .stamping connection body now) (by simp) (by simp) hphase)
  | @stamped connection body now hc =>
    rw [hc] at hphase
    exact hp.keep (by rw [hc]; rfl) trivial (fun _ => rfl) (by simp) (by simp) rfl
      (phaseLaw_snoc (c := .handling connection body) (by simp) (by simp) hphase)
  | @handled connection body calls result detector hc _ =>
    rw [hc] at hphase
    refine hp.keep (by rw [hc]; rfl) hphase.1 (fun _ => rfl) (by simp) (by simp) rfl ?_
    apply phaseLaw_proceedOrStop
    · exact phaseLaw_snoc (c := .consuming connection) (by simp) (by simp) hphase
    · exact phaseLaw_snoc (c := .stopping connection) (by simp) (by simp) hphase
  | @consumed connection answer hc =>
    rw [hc] at hphase
    exact hp.keep (by rw [hc]; rfl) trivial (fun _ => rfl) (by simp) (by simp) rfl
      (phaseLaw_snoc (c := .stopping connection) (by simp) (by simp) hphase)
  | @unready connection hc =>
    rw [hc] at hphase
    obtain ⟨hserving, channel, hinit⟩ := hphase
    refine hp.snoc (by rw [hc]; rfl) hserving (fun _ => rfl) ?_ ⟨hlast, channel, hinit.snoc⟩
    exact fun _ => iff_of_false (by simp) (fun hserving => hserving.2 hlast)
  | @closed connection answer hc =>
    rw [hc] at hphase
    exact hp.keep (by rw [hc]; rfl) hphase (fun hend => by cases hend) (by simp) (by simp) rfl trivial
  | measured halive _ =>
    exact hp.keep halive trivial (fun _ => rfl) (by simp) (by simp) rfl
      (phaseLaw_snoc (by simp) (by simp) hphase)
  | checked halive _ =>
    exact hp.keep halive trivial (fun _ => rfl) (by simp) (by simp) rfl
      (phaseLaw_snoc (by simp) (by simp) hphase)
  | probed halive =>
    exact hp.keep halive (probe_rule (hp.flag halive)) (fun _ => rfl) (by simp) (by simp) rfl
      (phaseLaw_snoc (by simp) (by simp) hphase)

/-- In every interleaving, whatever the calls answer. -/
theorem health_lawful {labels : List (LifeLabel Image)} (h : LifeRun env start labels p) :
    Along LifeLaw labels := by
  have hinv : LifeInv labels p := by
    refine Transition.Run.invariant LifeInv ⟨along_nil _, ?_, ?_, ?_⟩ (fun _ _ _ _ hp h => hp.step h) h
    · intro _ l hl
      cases hl
    · exact fun _ => iff_of_false (by simp [DetectorProcess.start]) (fun hserving => by cases hserving.1)
    · exact ⟨List.not_mem_nil, List.not_mem_nil⟩
  exact hinv.law

end Readiness

/-! ### Memory -/

def readingOf : LifeLabel Image → Option WallTime
  | .arrived _ now | .measured now => some now
  | _ => none

def measurementOf : LifeLabel Image → Option WallTime
  | .measured now => some now
  | _ => none

/-- The reading of the frame that arrived last, and `last_frame_time`. -/
structure FrameTimes where
  read : WallTime
  stored : WallTime

def FrameTimes.see (times : FrameTimes) : LifeLabel Image → FrameTimes
  | .arrived _ now => { times with read := now }
  | .stamped => { times with stored := times.read }
  | _ => times

def frameTimes (start : WallTime) (past : List (LifeLabel Image)) : FrameTimes :=
  past.foldl FrameTimes.see ⟨start, start⟩

/-- A frame was stored since the memory was parked. -/
def Woken (past : List (LifeLabel Image)) : Prop :=
  ∀ before after, past = before ++ .checked true :: after → .stamped ∈ after

/-- The decision of the manager, about the readings that it compares. -/
def ParkRule (start : WallTime) (past : List (LifeLabel Image)) (collected : Bool) (now : WallTime) :
    Prop :=
  (collected = true → 300 < timeOf now - timeOf (frameTimes start past).stored ∧ Woken past) ∧
    (collected = false → 300 < timeOf now - timeOf (frameTimes start past).stored →
      .checked true ∈ past)

def ParkLaw (start : WallTime) (past : List (LifeLabel Image)) : LifeLabel Image → Prop
  | .checked collected => ∃ now, latestOf measurementOf past = some now ∧ ParkRule start past collected now
  | _ => True

/-- The clock is past the first five minutes and does not go back. -/
structure SteadyClock (start : WallTime) (labels : List (LifeLabel Image)) : Prop where
  late : 300 < timeOf start
  sorted : (start :: labels.filterMap readingOf).Pairwise (fun t t' => timeOf t ≤ timeOf t')

/-- What the past has to show for what the manager holds. -/
def ManagerLaw (start : WallTime) (past : List (LifeLabel Image)) : MemoryManager → Prop
  | .absent => .checked true ∉ past
  | .sleeping parked => (parked = true → .checked true ∈ past) ∧
      (¬ Woken past → parked = true ∧ ∃ now ∈ past.filterMap readingOf,
        idle now (frameTimes start past).stored = true)
  | .measuring parked now => (parked = true → .checked true ∈ past) ∧
      latestOf measurementOf past = some now ∧ now ∈ past.filterMap readingOf ∧
      (¬ Woken past → parked = true ∧ idle now (frameTimes start past).stored = true)

/-- The manager is not started yet. -/
def isEarly : ConsumerPhase → Bool
  | .starting | .delayed => true
  | _ => false

structure ParkInv (start : WallTime) (past : List (LifeLabel Image)) (p : DetectorProcess) : Prop where
  law : Along (ParkLaw start) past
  stored : p.shared.lastFrameTime = (frameTimes start past).stored
  read : ∀ connection body now, p.consumer = .stamping connection body now →
    now = (frameTimes start past).read
  late : 300 < timeOf (frameTimes start past).read ∧ 300 < timeOf (frameTimes start past).stored
  early : isEarly p.consumer = true → p.manager = .absent
  manager : ManagerLaw start past p.manager

section Parking

variable {env : DetectorEnv Image} {past : List (LifeLabel Image)} {label : LifeLabel Image}
  {p p' : DetectorProcess} {start now now' last : WallTime}

/-- Above five minutes the float comparison is exact, whichever reading is the later. -/
lemma idle_iff (hlast : 300 < timeOf last) : idle now last = true ↔ 300 < timeOf now - timeOf last := by
  rcases le_total (timeOf last) (timeOf now) with hle | hle
  · have hcooled := @cooledDown_iff (smallInteger 300 (by decide)) now last (by exact_mod_cast hlast) hle
    exact_mod_cast hcooled
  · obtain ⟨neg, m, hsub, hval⟩ := Binary64.sub_of_ge hle (by
      have htop := timeOf_le last
      have hbottom := neg_timeOf_le now
      apply lt_of_le_of_lt _ two_pow_lt_threshold
      change timeOf last - timeOf now ≤ 2 ^ 35
      linarith)
    have hidle : idle now last = decide ((300 : ℤ) < Binary64.signed neg m) := by
      change (Binary64.sub now.toFloat last.toFloat).gtInt 300 = _
      rw [WallTime.toFloat, WallTime.toFloat, hsub]
      rfl
    rw [hidle, decide_eq_true_iff]
    push_cast
    exact iff_of_false (by linarith) (by linarith)

lemma idle_mono (hlast : 300 < timeOf last) (hle : timeOf now ≤ timeOf now')
    (h : idle now last = true) : idle now' last = true := by
  rw [idle_iff hlast] at h ⊢
  linarith

lemma frameTimes_snoc :
    frameTimes start (past ++ [label]) = (frameTimes start past).see label := by
  rw [frameTimes, List.foldl_append]
  rfl

lemma SteadyClock.before (h : SteadyClock start (past ++ [label])) : SteadyClock start past := by
  have hsorted := h.sorted
  rw [List.filterMap_append, ← List.cons_append] at hsorted
  exact ⟨h.late, (List.pairwise_append.mp hsorted).1⟩

/-- A reading is above the earlier ones. -/
lemma SteadyClock.above (h : SteadyClock start (past ++ [label])) (hlabel : readingOf label = some now') :
    timeOf start ≤ timeOf now' ∧ ∀ now ∈ past.filterMap readingOf, timeOf now ≤ timeOf now' := by
  have hsorted := h.sorted
  rw [List.filterMap_append, List.filterMap_cons_some hlabel, ← List.cons_append] at hsorted
  have habove := (List.pairwise_append.mp hsorted).2.2
  exact ⟨habove start List.mem_cons_self now' List.mem_cons_self,
    fun now hnow => habove now (List.mem_cons_of_mem _ hnow) now' List.mem_cons_self⟩

lemma woken_of_not_mem (h : .checked true ∉ past) : Woken past := by
  rintro before after rfl
  exact absurd (List.mem_append_right _ List.mem_cons_self) h

lemma woken_stamped : Woken (past ++ [.stamped]) := by
  intro before after heq
  cases after using List.reverseRecOn with
  | nil =>
    have hlast := (List.append_inj' heq rfl).2
    cases hlast
  | append_singleton after l =>
    rw [← List.cons_append, ← List.append_assoc] at heq
    rw [← (List.append_inj' heq rfl).2]
    exact List.mem_append_right _ List.mem_cons_self

lemma Woken.snoc (h : Woken past) (hlabel : label ≠ .checked true) : Woken (past ++ [label]) := by
  intro before after heq
  cases after using List.reverseRecOn with
  | nil => exact absurd (List.singleton_inj.mp (List.append_inj' heq rfl).2) hlabel
  | append_singleton after l =>
    rw [← List.cons_append, ← List.append_assoc] at heq
    exact List.mem_append_left _ (h before after (List.append_inj' heq rfl).1)

/-- Labels that neither store a time, nor read the clock, nor decide. -/
def LifeLabel.IsPlain (label : LifeLabel Image) : Prop :=
  readingOf label = none ∧ label ≠ .stamped ∧ ∀ collected, label ≠ .checked collected

lemma LifeLabel.IsPlain.see (h : LifeLabel.IsPlain label) (times : FrameTimes) :
    times.see label = times := by
  cases label with
  | arrived body now => cases h.1
  | stamped => exact absurd rfl h.2.1
  | _ => rfl

lemma measurementOf_of_readingOf (h : readingOf label = none) : measurementOf label = none := by
  cases label with
  | measured now => cases h
  | _ => rfl

/-- A label that is not about the manager. -/
lemma ManagerLaw.snoc {m : MemoryManager} (h : ManagerLaw start past m)
    (hmeasure : measurementOf label = none) (hchecked : label ≠ .checked true)
    (hidle : label ≠ .stamped →
      (frameTimes start (past ++ [label])).stored = (frameTimes start past).stored) :
    ManagerLaw start (past ++ [label]) m := by
  have hwoken : ¬ Woken (past ++ [label]) → ¬ Woken past ∧ label ≠ .stamped := by
    intro hnot
    refine ⟨fun hwoken => hnot (hwoken.snoc hchecked), ?_⟩
    rintro rfl
    exact hnot woken_stamped
  have hreadings : ∀ now ∈ past.filterMap readingOf, now ∈ (past ++ [label]).filterMap readingOf := by
    intro now hnow
    rw [List.filterMap_append]
    exact List.mem_append_left _ hnow
  cases m with
  | absent => exact not_mem_snoc h (Ne.symm hchecked)
  | sleeping parked =>
    refine ⟨fun hparked => List.mem_append_left _ (h.1 hparked), fun hnot => ?_⟩
    obtain ⟨hpast, hlabel⟩ := hwoken hnot
    obtain ⟨hparked, now, hnow, hidled⟩ := h.2 hpast
    exact ⟨hparked, now, hreadings now hnow, by rwa [hidle hlabel]⟩
  | measuring parked now =>
    obtain ⟨hparked, hlatest, hnow, hasleep⟩ := h
    refine ⟨fun hp => List.mem_append_left _ (hparked hp), ?_, hreadings now hnow, fun hnot => ?_⟩
    · rw [latestOf_snoc, hmeasure]
      exact hlatest
    · obtain ⟨hpast, hlabel⟩ := hwoken hnot
      rw [hidle hlabel]
      exact hasleep hpast

/-- The consumer goes on without a frame. -/
def Passes (c c' : ConsumerPhase) : Prop :=
  (∀ connection body now, c' = .stamping connection body now → c = .stamping connection body now) ∧
    (isEarly c' = true → isEarly c = true)

lemma Passes.intro {c c' : ConsumerPhase}
    (hstamp : ∀ connection body now, c' ≠ .stamping connection body now) (hearly : isEarly c' = false) : Passes c c' := by
  constructor
  · exact fun connection body now h => absurd h (hstamp connection body now)
  · intro h
    rw [hearly] at h
    cases h

lemma Passes.proceed {α : Type} {c : ConsumerPhase} {next : α → ConsumerPhase} {result : Except Exn α}
    (hnext : ∀ a, Passes c (next a)) : Passes c (.proceed next result) := by
  cases result with
  | ok a => exact hnext a
  | error e => exact .intro (by simp [ConsumerPhase.proceed]) rfl

lemma Passes.proceedOrStop {c next : ConsumerPhase} {result : Except Exn Unit} {connection : ℕ}
    (hnext : Passes c next) : Passes c (.proceedOrStop connection next result) := by
  cases result with
  | ok _ => exact hnext
  | error e => exact .intro (by simp [ConsumerPhase.proceedOrStop]) rfl

/-- A step of another part of the program. -/
lemma ParkInv.plain (hp : ParkInv start past p) (hlabel : LifeLabel.IsPlain label)
    (hstored : p'.shared.lastFrameTime = p.shared.lastFrameTime) (hpass : Passes p.consumer p'.consumer)
    (hmanager : p'.manager = p.manager) : ParkInv start (past ++ [label]) p' := by
  have htimes : frameTimes start (past ++ [label]) = frameTimes start past := by
    rw [frameTimes_snoc, hlabel.see]
  refine ⟨along_snoc_iff.mpr ⟨hp.law, ?_⟩, ?_, ?_, ?_, ?_, ?_⟩
  · cases label with
    | checked collected => exact absurd rfl (hlabel.2.2 collected)
    | _ => trivial
  · rw [htimes, hstored]
    exact hp.stored
  · rw [htimes]
    exact fun connection body now h => hp.read connection body now (hpass.1 connection body now h)
  · rw [htimes]
    exact hp.late
  · rw [hmanager]
    exact fun h => hp.early (hpass.2 h)
  · rw [hmanager]
    have hmeasure := measurementOf_of_readingOf hlabel.1
    exact hp.manager.snoc hmeasure (hlabel.2.2 true) (fun _ => by rw [htimes])

/-- The manager decides by the reading that it took before. -/
lemma ParkInv.decide {parked : Bool} (hp : ParkInv start past p)
    (hmanager : p.manager = .measuring parked now) :
    ParkInv start (past ++ [.checked (idle now p.shared.lastFrameTime && !parked)])
      { p with manager := .sleeping (idle now p.shared.lastFrameTime) } := by
  have hlaw := hp.manager
  rw [hmanager] at hlaw
  obtain ⟨hparked, hlatest, hnow, hasleep⟩ := hlaw
  have htimes : ∀ collected, frameTimes start (past ++ [.checked collected]) = frameTimes start past :=
    fun collected => frameTimes_snoc
  have hreadings : ∀ collected,
      now ∈ (past ++ [LifeLabel.checked collected]).filterMap readingOf := by
    intro collected
    rw [List.filterMap_append]
    exact List.mem_append_left _ hnow
  rw [hp.stored]
  refine ⟨along_snoc_iff.mpr ⟨hp.law, now, hlatest, ?_, ?_⟩, ?_, ?_, ?_, ?_, ?_⟩
  · intro hcollected
    obtain ⟨hidle, hnot⟩ := Bool.and_eq_true_iff.mp hcollected
    refine ⟨(idle_iff hp.late.2).mp hidle, ?_⟩
    by_contra hwoken
    rw [(hasleep hwoken).1] at hnot
    cases hnot
  · intro hcollected hlong
    rw [(idle_iff hp.late.2).mpr hlong] at hcollected
    apply hparked
    simpa using hcollected
  · rw [htimes]
    exact hp.stored
  · rw [htimes]
    exact hp.read
  · rw [htimes]
    exact hp.late
  · intro hearly
    rw [hp.early hearly] at hmanager
    cases hmanager
  · cases hidle : idle now (frameTimes start past).stored with
    | false =>
      refine ⟨fun h => (by cases h), fun hnot => ?_⟩
      have hwoken : Woken past := by
        by_contra hwoken
        rw [(hasleep hwoken).2] at hidle
        cases hidle
      exact absurd (hwoken.snoc (by simp)) hnot
    | true =>
      have hmem : LifeLabel.checked true ∈ past ++ [LifeLabel.checked (true && !parked)] := by
        cases parked with
        | true => exact List.mem_append_left _ (hparked rfl)
        | false => exact List.mem_append_right _ List.mem_cons_self
      exact ⟨fun _ => hmem, fun _ => ⟨rfl, now, hreadings _, by rw [htimes]; exact hidle⟩⟩

/-- The thread of the manager begins with its first sleep. -/
lemma ParkInv.start_manager (hp : ParkInv start past p) (hc : p.consumer = .delayed) :
    ParkInv start (past ++ [.managerStarted])
      { p with consumer := .loading, manager := .sleeping false } := by
  have hlaw := hp.manager
  rw [hp.early (by rw [hc]; rfl)] at hlaw
  refine ⟨along_snoc_iff.mpr ⟨hp.law, trivial⟩, ?_, fun _ _ _ h => (by cases h), ?_,
    fun h => (by cases h), ?_⟩
  · rw [frameTimes_snoc]
    exact hp.stored
  · rw [frameTimes_snoc]
    exact hp.late
  · refine ⟨fun h => (by cases h), fun hnot => absurd ?_ hnot⟩
    exact (woken_of_not_mem hlaw).snoc (by simp)

lemma ParkInv.step (hclock : SteadyClock start (past ++ [label])) (hp : ParkInv start past p)
    (h : LifeStep env p label p') : ParkInv start (past ++ [label]) p' := by
  cases h with
  | delayed hc _ =>
    refine hp.plain ⟨rfl, by simp, by simp⟩ rfl (.proceed fun _ => ?_) rfl
    exact ⟨fun _ _ _ h => (by cases h), fun _ => by rw [hc]; rfl⟩
  | managerStarted hc => exact hp.start_manager hc
  | modelLoaded | connected | basicQos | captures =>
    exact hp.plain ⟨rfl, by simp, by simp⟩ rfl (.proceed fun _ => .intro (by simp) rfl) rfl
  | basicConsume | handled =>
    exact hp.plain ⟨rfl, by simp, by simp⟩ rfl (.proceedOrStop (.intro (by simp) rfl)) rfl
  | ready | consumed | unready | closed =>
    exact hp.plain ⟨rfl, by simp, by simp⟩ rfl (.intro (by simp) rfl) rfl
  | @arrived connection body now hc =>
    have habove := hclock.above rfl
    refine ⟨along_snoc_iff.mpr ⟨hp.law, trivial⟩, ?_, ?_, ?_, fun h => (by cases h), ?_⟩
    · rw [frameTimes_snoc]
      exact hp.stored
    · rintro _ _ _ ⟨⟩
      rw [frameTimes_snoc]
      rfl
    · rw [frameTimes_snoc]
      exact ⟨hclock.late.trans_le habove.1, hp.late.2⟩
    · exact hp.manager.snoc rfl (by simp) (fun _ => by rw [frameTimes_snoc]; rfl)
  | @stamped connection body now hc =>
    have hread := hp.read connection body now hc
    refine ⟨along_snoc_iff.mpr ⟨hp.law, trivial⟩, ?_, fun _ _ _ h => (by cases h), ?_,
      fun h => (by cases h), ?_⟩
    · rw [frameTimes_snoc]
      exact hread
    · rw [frameTimes_snoc]
      exact ⟨hp.late.1, hp.late.1⟩
    · exact hp.manager.snoc rfl (by simp) (fun hne => absurd rfl hne)
  | @measured parked now _ hm =>
    have habove := hclock.above rfl
    have hlaw := hp.manager
    rw [hm] at hlaw
    have htimes : frameTimes start (past ++ [.measured now]) = frameTimes start past := frameTimes_snoc
    refine ⟨along_snoc_iff.mpr ⟨hp.law, trivial⟩, ?_, ?_, ?_, ?_, ?_⟩
    · rw [htimes]
      exact hp.stored
    · rw [htimes]
      exact hp.read
    · rw [htimes]
      exact hp.late
    · intro hearly
      rw [hp.early hearly] at hm
      cases hm
    · refine ⟨fun h => List.mem_append_left _ (hlaw.1 h), ?_, ?_, fun hnot => ?_⟩
      · rw [latestOf_snoc]
        rfl
      · rw [List.filterMap_append]
        exact List.mem_append_right _ List.mem_cons_self
      · obtain ⟨hparked, earlier, hmem, hidle⟩ := hlaw.2 (fun hwoken => hnot (hwoken.snoc (by simp)))
        rw [htimes]
        exact ⟨hparked, idle_mono hp.late.2 (habove.2 earlier hmem) hidle⟩
  | checked _ hm => exact hp.decide hm
  | probed _ => exact hp.plain ⟨rfl, by simp, by simp⟩ rfl ⟨fun _ _ _ h => h, fun h => h⟩ rfl

/-- Memory is only parked after five minutes without a frame, and not again before the next one. -/
theorem memory_parked_once {labels : List (LifeLabel Image)} (h : LifeRun env start labels p)
    (hclock : SteadyClock start labels) : Along (ParkLaw start) labels := by
  have hinv : SteadyClock start labels → ParkInv start labels p := by
    refine Transition.Run.invariant (fun past p => SteadyClock start past → ParkInv start past p) ?_ ?_ h
    · intro hsteady
      exact ⟨along_nil _, rfl, fun _ _ _ h => (by cases h), ⟨hsteady.late, hsteady.late⟩, fun _ => rfl,
        List.not_mem_nil⟩
    · intro past p label p' hp hstep hsteady
      exact (hp hsteady.before).step hsteady hstep
  exact (hinv hclock).law

end Parking

/-! ### A run -/

open StaggeredStart

def startCalls : Trace StartCall StartAns :=
  [⟨.logInfo (lit "Staggered start: Waiting " ++ decimal 0 ++ lit "s to initialize GPU..."), ()⟩,
    ⟨.sleep 0, ()⟩]

/-- The first instance does not wait. -/
lemma first_instance_starts : Exec (staggeredStart (lit "detector_1")) () startCalls (.ok ()) () := by
  have hnumber : Exec (instanceNum (lit "detector_1")) () [] (.ok 1) () :=
    exec_instanceNum.mpr (Or.inl ⟨smallInteger 1 (by decide), by decide, rfl, rfl⟩)
  have hdelay : Exec (initDelay (lit "detector_1")) () [] (.ok 0) () :=
    exec_initDelay.mpr ⟨1, hnumber, rfl⟩
  have htext : intStr 0 = .ok (decimal 0) := if_pos (smallInteger 0 (by decide)).2
  refine exec_bind.mpr (Or.inr ⟨[], startCalls, 0, (), rfl, hdelay, ?_⟩)
  refine exec_evaluate_bind.mpr (Or.inr ⟨decimal 0, htext, ?_⟩)
  exact exec_perform_bind.mpr ⟨(), [⟨.sleep 0, ()⟩], rfl, .call (.ret _)⟩

def firstInstance : DetectorEnv Unit := { onePersonEnv with instanceId := lit "detector_1" }

def linkCalls : DispatchTrace Unit :=
  [⟨.blockingConnection, Except.ok (3 : ℕ)⟩, ⟨.openChannel 3, Except.ok (4 : ℕ)⟩,
    ⟨.queueDeclare 4 frameQueue, Except.ok ()⟩, ⟨.queueDeclare 4 alertQueue, Except.ok ()⟩]

def startReading : WallTime := atSecond ⟨310, by decide⟩

def idleReading : WallTime := atSecond ⟨700, by decide⟩

def frameReading : WallTime := atSecond ⟨710, by decide⟩

def busyReading : WallTime := atSecond ⟨760, by decide⟩

/-- Minutes without a frame, one frame, and the end of the connection. -/
def lifeLabels : List (LifeLabel Unit) :=
  [.delayed startCalls (.ok ()), .managerStarted, .modelLoaded (.ok ()), .connected linkCalls (.ok (3, 4)),
    .basicQos 4 (.ok ()), .probed (lit "/healthz") (some ⟨503, lit "INITIALIZING\n"⟩), .ready,
    .probed (lit "/health") (some ⟨200, lit "OK\n"⟩), .captures true (.ok ()), .basicConsume 4 (.ok ()),
    .measured idleReading, .checked true, .arrived [255] frameReading, .stamped,
    .handled garbledCalls (.ok ()), .measured busyReading, .checked false,
    .consumed (.error .connectionError), .unready, .closed 3 (.ok ())]

lemma readings_val : timeOf startReading = 310 ∧ timeOf idleReading = 700 ∧ timeOf frameReading = 710 ∧
    timeOf busyReading = 760 :=
  ⟨rfl, rfl, rfl, rfl⟩

lemma lifeLabels_steady : SteadyClock startReading lifeLabels := by
  obtain ⟨hstart, hidle, hframe, hbusy⟩ := readings_val
  have hreadings : lifeLabels.filterMap readingOf = [idleReading, frameReading, busyReading] := rfl
  constructor
  · rw [hstart]
    norm_num
  · rw [hreadings]
    simp only [List.pairwise_cons, List.mem_cons, List.not_mem_nil, or_false, forall_eq_or_imp, forall_eq,
      hstart, hidle, hframe, hbusy]
    norm_num

lemma idleReading_idle : idle idleReading startReading = true := by
  obtain ⟨hstart, hidle, -⟩ := readings_val
  rw [idle_iff (by rw [hstart]; norm_num), hstart, hidle]
  norm_num

lemma busyReading_busy : idle busyReading frameReading = false := by
  obtain ⟨-, -, hframe, hbusy⟩ := readings_val
  rw [← Bool.not_eq_true, idle_iff (by rw [hframe]; norm_num), hframe, hbusy]
  norm_num

lemma link_exec : Exec (connectRabbitmq [frameQueue, alertQueue]) ⟨none, none⟩ linkCalls (.ok (3, 4))
    ⟨none, none⟩ :=
  .call <| .call <| .call <| .call <| .ret _

lemma parked_step {p : DetectorProcess} (halive : p.consumer.isEnded = false)
    (hmanager : p.manager = .measuring false idleReading)
    (hstored : p.shared.lastFrameTime = startReading) :
    LifeStep firstInstance p (.checked true) { p with manager := .sleeping true } := by
  have hstep : LifeStep firstInstance p _ _ := .checked halive hmanager
  rwa [hstored, idleReading_idle] at hstep

lemma woken_step {p : DetectorProcess} (halive : p.consumer.isEnded = false)
    (hmanager : p.manager = .measuring true busyReading)
    (hstored : p.shared.lastFrameTime = frameReading) :
    LifeStep firstInstance p (.checked false) { p with manager := .sleeping false } := by
  have hstep : LifeStep firstInstance p _ _ := .checked halive hmanager
  rwa [hstored, busyReading_busy] at hstep

lemma lifeLabels_run : LifeRun firstInstance startReading lifeLabels
    ⟨⟨frameReading, false⟩, .start, .ended (.ok ()), .sleeping false⟩ := by
  have hserved : LifeStep firstInstance ⟨⟨frameReading, true⟩, .start, .handling 3 [255], .sleeping true⟩
      (.handled garbledCalls (.ok ())) _ := .handled rfl garbled_exec
  refine Transition.Run.append (.single (.delayed rfl first_instance_starts)) ?_
  refine Transition.Run.append (.single (.managerStarted rfl)) ?_
  refine Transition.Run.append (.single (.modelLoaded rfl)) ?_
  refine Transition.Run.append (.single (.connected rfl link_exec)) ?_
  refine Transition.Run.append (.single (.basicQos rfl)) ?_
  refine Transition.Run.append (.single (.probed rfl)) ?_
  refine Transition.Run.append (.single (.ready rfl)) ?_
  refine Transition.Run.append (.single (.probed rfl)) ?_
  refine Transition.Run.append (.single (.captures rfl (fun _ => rfl))) ?_
  refine Transition.Run.append (.single (.basicConsume rfl)) ?_
  refine Transition.Run.append (.single (.measured rfl rfl)) ?_
  refine Transition.Run.append (.single (parked_step rfl rfl rfl)) ?_
  refine Transition.Run.append (.single (.arrived rfl)) ?_
  refine Transition.Run.append (.single (.stamped rfl)) ?_
  refine Transition.Run.append (.single hserved) ?_
  refine Transition.Run.append (.single (.measured rfl rfl)) ?_
  refine Transition.Run.append (.single (woken_step rfl rfl rfl)) ?_
  refine Transition.Run.append (.single (.consumed rfl)) ?_
  refine Transition.Run.append (.single (.unready rfl)) ?_
  exact .single (.closed rfl)

theorem health_lawful_firstInstance : Along LifeLaw lifeLabels :=
  health_lawful lifeLabels_run

theorem memory_parked_once_firstInstance : Along (ParkLaw startReading) lifeLabels :=
  memory_parked_once lifeLabels_run lifeLabels_steady

end IntruderWatch.Proofs
