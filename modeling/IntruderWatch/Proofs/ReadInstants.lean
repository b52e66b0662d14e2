import IntruderWatch.Ingestion
import IntruderWatch.Proofs.LoopDispatch

/-!
# Frames that outlive the clock reading

The loop judges a frame by a clock reading that is older than the frame. The schedule and the
post-roll window hold for the instant at which the frame was complete whenever neither of them
ends while the frame is read, and a frame that took longer is dispatched all the same.
-/

namespace IntruderWatch.Proofs
open History

/-! ### The law and its condition -/

def movedRead (r : ReadReport) : Bool := moved r.report

/-- A frame handed to `Submit` was complete inside the schedule, and a post-roll frame within
the post-roll window of the most recent motion frame. -/
def ReadLaw (cfg : Config) (schedule : TimeFrame) (loc : Location) (past : List ReadReport)
    (r : ReadReport) : Prop :=
  ∀ stamp, r.report.handed = some stamp →
    schedule.isWithinTimeFrame loc r.readAt = true ∧
    (stamp.isPostRoll = true →
      ∃ m, latest movedRead past = some m ∧ r.readAt - m.readAt ≤ cfg.postRollDuration)

/-- Neither the schedule nor the post-roll window ends between the clock reading of the
iteration and the end of its `ReadFrame`. -/
def ReadInTime (cfg : Config) (schedule : TimeFrame) (loc : Location) (past : List ReadReport) :
    IngestionEvent → Prop
  | .iteration now (.frame readAt _ _) => schedule.isWithinTimeFrame loc now = true →
    schedule.isWithinTimeFrame loc readAt = true ∧
    ∀ m ∈ latest movedRead past, (now : Time) - m.report.now ≤ cfg.postRollDuration →
      readAt - m.readAt ≤ cfg.postRollDuration
  | .iteration _ .startError => True
  | .iteration _ .readError => True
  | .disconnected => True

def InTime (cfg : Config) (schedule : TimeFrame) (loc : Location) (labels : List IngestionLabel) :
    Prop :=
  Along (fun past label => ReadInTime cfg schedule loc (readReports past) label.1) labels

/-- The plane of a read frame has the size of the frame. -/
def FullRead (cfg : Config) : IngestionEvent → Prop
  | .iteration _ (.frame _ yPlane _) => FullPlane cfg yPlane
  | .iteration _ .startError => True
  | .iteration _ .readError => True
  | .disconnected => True

/-- The instants of a run, in the order of its events. -/
def instants (labels : List IngestionLabel) : List Time :=
  labels.flatMap (fun label => label.1.instants)

section Step

variable {cfg : Config} {schedule : TimeFrame} {loc : Location} {minInterval : Duration}
variable {st st' : LoopState} {e : IngestionEvent} {o : Option ReadReport}
variable {past labels : List IngestionLabel}

/-- An event without a report resets the detector or does nothing; an event with one has read
a frame inside the schedule. -/
lemma ingestionStep_cases (h : ingestionStep cfg schedule loc minInterval st e = some (st', o)) :
    (o = none ∧ (st' = st ∨ st' = st.resetDetector)) ∨
    ∃ now readAt yPlane ok r, e = .iteration now (.frame readAt yPlane ok) ∧
      schedule.isWithinTimeFrame loc now = true ∧
      ingestFrame cfg minInterval st now yPlane ok = some (st', r) ∧ o = some ⟨readAt, r⟩ := by
  cases e with
  | disconnected =>
    obtain ⟨rfl, rfl⟩ : st.resetDetector = st' ∧ none = o := by simpa [ingestionStep] using h
    exact .inl ⟨rfl, .inr rfl⟩
  | iteration now capture =>
    by_cases hin : schedule.isWithinTimeFrame loc now = true
    · simp only [ingestionStep, hin, if_true] at h
      cases capture with
      | startError =>
        obtain ⟨rfl, rfl⟩ : st = st' ∧ none = o := by simpa using h
        exact .inl ⟨rfl, .inl rfl⟩
      | readError =>
        obtain ⟨rfl, rfl⟩ : st.resetDetector = st' ∧ none = o := by simpa using h
        exact .inl ⟨rfl, .inr rfl⟩
      | frame readAt yPlane ok =>
        obtain ⟨⟨st₁, r⟩, hingest, heq⟩ := Option.map_eq_some_iff.mp h
        obtain ⟨rfl, rfl⟩ := Prod.mk.inj heq
        exact .inr ⟨now, readAt, yPlane, ok, r, rfl, hin, hingest, rfl⟩
    · simp only [ingestionStep, hin] at h
      obtain ⟨rfl, rfl⟩ : st.resetDetector = st' ∧ none = o := by simpa using h
      exact .inl ⟨rfl, .inr rfl⟩

lemma readReports_snoc (label : IngestionLabel) :
    readReports (past ++ [label]) = readReports past ++ label.2.toList := by
  cases h : label.2 <;> simp [readReports, h]

lemma instants_snoc (label : IngestionLabel) :
    instants (past ++ [label]) = instants past ++ label.1.instants := by
  simp [instants]

/-- What a run has established. -/
structure ReadInv (cfg : Config) (schedule : TimeFrame) (loc : Location)
    (past : List IngestionLabel) (st : LoopState) : Prop where
  loop : LoopInv cfg ((readReports past).map ReadReport.report) st
  timed : ∀ r ∈ readReports past, r.report.now ∈ instants past
  law : Along (ReadLaw cfg schedule loc) (readReports past)

/-- The loop's own law bounds the post-roll by its clock readings; an event in time carries
the bound over to the instants of the reads. -/
lemma DispatchLaw.readLaw {now readAt : Clock} {yPlane : Bytes} {ok : Bool} {r : Report}
    (hlaw : DispatchLaw cfg minInterval ((readReports past).map ReadReport.report) r)
    (hloop : LoopInv cfg ((readReports past).map ReadReport.report) st) (hnow : r.now = now)
    (hin : schedule.isWithinTimeFrame loc now = true)
    (htime : ReadInTime cfg schedule loc (readReports past)
      (.iteration now (.frame readAt yPlane ok))) :
    ReadLaw cfg schedule loc (readReports past) ⟨readAt, r⟩ := by
  intro stamp hstamp
  obtain ⟨hschedule, hwindow⟩ := htime hin
  refine ⟨hschedule, ?_⟩
  intro hroll
  obtain ⟨i, hi, hle⟩ := hlaw.latest_motion hloop.ordered hstamp hroll
  rw [latest_map, Option.map_eq_some_iff] at hi
  obtain ⟨m, hm, rfl⟩ := hi
  rw [hnow] at hle
  exact ⟨m, hm, hwindow m hm hle⟩

lemma ReadInv.quiet (h : ReadInv cfg schedule loc past st) (hst : st' = st ∨ st' = st.resetDetector) :
    ReadInv cfg schedule loc (past ++ [(e, none)]) st' := by
  have hreports : readReports (past ++ [(e, none)]) = readReports past := by
    rw [readReports_snoc, Option.toList_none, List.append_nil]
  refine ⟨?_, ?_, ?_⟩
  · rw [hreports]
    rcases hst with rfl | rfl
    · exact h.loop
    · exact h.loop.resetDetector
  · intro r hr
    rw [hreports] at hr
    rw [instants_snoc]
    exact List.mem_append_left _ (h.timed r hr)
  · rw [hreports]
    exact h.law

lemma ReadInv.read {now readAt : Clock} {yPlane : Bytes} {ok : Bool} {r : Report}
    (h : ReadInv cfg schedule loc past st) (hplane : FullPlane cfg yPlane)
    (hingest : ingestFrame cfg minInterval st now yPlane ok = some (st', r))
    (hord : ∀ t ∈ instants past, t ≤ (now : Time))
    (hin : schedule.isWithinTimeFrame loc now = true)
    (htime : ReadInTime cfg schedule loc (readReports past)
      (.iteration now (.frame readAt yPlane ok))) :
    ReadInv cfg schedule loc
      (past ++ [(.iteration now (.frame readAt yPlane ok), some ⟨readAt, r⟩)]) st' := by
  have hpast : ∀ j ∈ (readReports past).map ReadReport.report, j.now ≤ (now : Time) := by
    intro j hj
    obtain ⟨q, hq, rfl⟩ := List.mem_map.mp hj
    exact hord _ (h.timed q hq)
  obtain ⟨st₁, r₁, hingest₁, hnow, hlaw, hloop⟩ := h.loop.ingestFrame hplane now.2 hpast ok
  rw [hingest, Option.some.injEq, Prod.mk.injEq] at hingest₁
  obtain ⟨rfl, rfl⟩ := hingest₁
  refine ⟨?_, ?_, ?_⟩
  · rw [readReports_snoc, Option.toList_some, List.map_append]
    exact hloop
  · intro q hq
    rw [readReports_snoc, Option.toList_some, List.mem_append, List.mem_singleton] at hq
    rw [instants_snoc]
    rcases hq with hq | rfl
    · exact List.mem_append_left _ (h.timed q hq)
    · exact List.mem_append_right _ (by simp [IngestionEvent.instants, hnow])
  · rw [readReports_snoc, Option.toList_some, along_snoc_iff]
    exact ⟨h.law, hlaw.readLaw h.loop hnow hin htime⟩

lemma ReadInv.step (h : ReadInv cfg schedule loc past st)
    (hstep : ingestionStep cfg schedule loc minInterval st e = some (st', o))
    (hfull : FullRead cfg e) (hord : (instants (past ++ [(e, o)])).Pairwise (fun t t' => t ≤ t'))
    (htime : ReadInTime cfg schedule loc (readReports past) e) :
    ReadInv cfg schedule loc (past ++ [(e, o)]) st' := by
  rcases ingestionStep_cases hstep with ⟨rfl, hst⟩ |
    ⟨now, readAt, yPlane, ok, r, rfl, hin, hingest, rfl⟩
  · exact h.quiet hst
  · rw [instants_snoc, List.pairwise_append] at hord
    apply h.read hfull hingest _ hin htime
    intro t ht
    exact hord.2.2 t ht now (by simp [IngestionEvent.instants])

end Step

/-- In every run whose reads are in time, every report obeys the law. -/
theorem dispatched_in_window (cfg : Config) (schedule : TimeFrame) (loc : Location)
    (minInterval : Duration) (d : MacroblockDetector) (labels : List IngestionLabel) (st : LoopState)
    (hnew : newMacroblockDetector cfg = some d)
    (hrun : Transition.Run (Transition.Steps (ingestionStep cfg schedule loc minInterval))
      (LoopState.start d) labels st)
    (hfull : ∀ label ∈ labels, FullRead cfg label.1)
    (hord : (instants labels).Pairwise (fun t t' => t ≤ t'))
    (htime : InTime cfg schedule loc labels) :
    Along (ReadLaw cfg schedule loc) (readReports labels) := by
  have hstart : ReadInv cfg schedule loc [] (LoopState.start d) :=
    ⟨LoopInv.start (newMacroblockDetector_configured hnew).1, by simp [readReports], along_nil _⟩
  have hinv : ReadInv cfg schedule loc labels st := by
    induction hrun with
    | nil => exact hstart
    | @snoc past s label s' _ hstep ih =>
      rw [InTime, along_snoc_iff] at htime
      have hord' := hord
      rw [instants_snoc, List.pairwise_append] at hord'
      have hpast := ih (fun l hl => hfull l (List.mem_append_left _ hl)) hord'.1 htime.1
      exact hpast.step hstep (hfull label (by simp)) hord htime.2
  exact hinv.law

/-! ### Two runs that differ in one delay -/

def firstHalfMinute : TimeFrame where
  startSeconds := 0
  endSeconds := 30

def utc : Location := fun _ => 0

def instant (n : ℕ) : Clock := ⟨n + 1, by positivity⟩

/-- A reference frame, a moved pixel, and a frame in the post-roll window, which is complete at
`readAt`. -/
def threeReads (readAt : Clock) : List IngestionEvent :=
  [.iteration (instant 0) (.frame (instant 1) [0, 0] true),
    .iteration (instant 10) (.frame (instant 11) [0, 90] true),
    .iteration (instant 20) (.frame readAt [0, 90] true)]

def movedBox : Box := ⟨1, 0, 2, 1⟩

def threeReports (readAt : Clock) : List (Option ReadReport) :=
  [some ⟨instant 1, instant 0, some ⟨false, 0, 2, 2, false, 0, none⟩, none, false⟩,
    some ⟨instant 11, instant 10, some ⟨true, 1, 2, 2, false, 90, some movedBox⟩,
      some ⟨instant 10, 1, false, some movedBox⟩, true⟩,
    some ⟨readAt, instant 20, some ⟨false, 0, 2, 2, false, 0, none⟩,
      some ⟨instant 20, 2, true, some movedBox⟩, true⟩]

def threeLabels (readAt : Clock) : List IngestionLabel :=
  (threeReads readAt).zip (threeReports readAt)

def threeOutputs (readAt : Clock) : Option (List (Option ReadReport)) := do
  let d ← newMacroblockDetector twoBlockConfig
  let (_, outputs) ← Transition.exec (ingestionStep twoBlockConfig firstHalfMinute utc 5)
    (LoopState.start d) (threeReads readAt)
  some outputs

lemma threeLabels_run {readAt : Clock} (h : threeOutputs readAt = some (threeReports readAt)) :
    ∃ d st, newMacroblockDetector twoBlockConfig = some d ∧
      Transition.Run (Transition.Steps (ingestionStep twoBlockConfig firstHalfMinute utc 5))
        (LoopState.start d) (threeLabels readAt) st := by
  simp only [threeOutputs, Option.bind_eq_bind, Option.bind_eq_some_iff, Option.some.injEq,
    Prod.exists] at h
  obtain ⟨d, hnew, st, outputs, hexec, rfl⟩ := h
  exact ⟨d, st, hnew, Transition.exec_run hexec⟩

lemma threeLabels_full (readAt : Clock) :
    ∀ label ∈ threeLabels readAt, FullRead twoBlockConfig label.1 := by
  simp [threeLabels, threeReads, threeReports, FullRead, FullPlane, twoBlockConfig]

def promptly : Clock := instant 21

def minuteLater : Clock := instant 60000000000

lemma promptly_outputs : threeOutputs promptly = some (threeReports promptly) := by
  decide +kernel

lemma minuteLater_outputs : threeOutputs minuteLater = some (threeReports minuteLater) := by
  decide +kernel

theorem dispatched_in_window_promptly :
    Along (ReadLaw twoBlockConfig firstHalfMinute utc) (readReports (threeLabels promptly)) := by
  obtain ⟨d, st, hnew, hrun⟩ := threeLabels_run promptly_outputs
  refine dispatched_in_window twoBlockConfig firstHalfMinute utc 5 d (threeLabels promptly) st hnew
    hrun (threeLabels_full promptly) (by decide) ?_
  intro k hk
  match k, hk with
  | 0, _ => exact fun _ => ⟨by decide, fun m hm => absurd hm (Option.not_mem_none m)⟩
  | 1, _ => exact fun _ => ⟨by decide, fun m hm => absurd hm (Option.not_mem_none m)⟩
  | 2, _ =>
    refine fun _ => ⟨by decide, fun m hm _ => ?_⟩
    obtain rfl := Option.some.inj hm
    decide

/-- `ReadFrame` blocks for a minute after motion ceased: the frame is judged by the old reading
and dispatched as post-roll, outside the schedule and long after the window. -/
theorem stalled_frame_dispatched : ∃ d labels st,
    newMacroblockDetector twoBlockConfig = some d ∧
    Transition.Run (Transition.Steps (ingestionStep twoBlockConfig firstHalfMinute utc 5))
      (LoopState.start d) labels st ∧
    (∀ label ∈ labels, FullRead twoBlockConfig label.1) ∧
    (instants labels).Pairwise (fun t t' => t ≤ t') ∧
    ¬ Along (ReadLaw twoBlockConfig firstHalfMinute utc) (readReports labels) := by
  obtain ⟨d, st, hnew, hrun⟩ := threeLabels_run minuteLater_outputs
  refine ⟨d, threeLabels minuteLater, st, hnew, hrun, threeLabels_full minuteLater, by decide, ?_⟩
  intro hlaw
  have hthird := hlaw 2 (by decide) _ rfl
  exact absurd hthird.1 (by decide)

end IntruderWatch.Proofs
