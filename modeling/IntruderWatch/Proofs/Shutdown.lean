import IntruderWatch.Proofs.BrokerSupervision

/-!
# Connections and shutdown of the capturer

However the signal handler, the worker and the server interleave with `main`: the only connection that
may be open is the broker's, a signal lets `main` finish what it is at and begin nothing, and when
`main` returns the last connection is closed.
-/

namespace IntruderWatch.Proofs
open Transition

/-! ### What is left to do -/

/-- `main` looks for new work. -/
def begins : CapturerLabel → Bool
  | .connect | .check _ => true
  | _ => false

def isDialOutcome : CapturerLabel → Bool
  | .dial _ => true
  | _ => false

def isSubmit : CapturerLabel → Bool
  | .iterate .submit _ => true
  | _ => false

def isOfMain : CapturerLabel → Bool
  | .connect | .dial _ | .retry | .check _ | .innerDone | .iterate _ _ | .stop => true
  | _ => false

def isDelivery : CapturerLabel → Bool
  | .worker _ (.published _) => true
  | _ => false

/-- What may follow a signal. -/
structure WindsDown (after : List CapturerLabel) : Prop where
  nothing_new : ∀ label ∈ after, begins label = false
  dials : after.countP isDialOutcome ≤ Capturer.retries
  submits : after.countP isSubmit ≤ 1

/-- What may follow the end of `main`. -/
def IsOver (after : List CapturerLabel) : Prop :=
  ∀ label ∈ after, isOfMain label = false ∧ isDelivery label = false

/-- The attempts that are left to `Connect`. -/
def dialsLeft : Supervisor → ℕ
  | .connecting attempt => Capturer.retries + 1 - attempt
  | _ => 0

/-- An iteration that has not come to its `Submit`. -/
def submitsLeft (s : Capturer) : ℕ :=
  match s.supervisor, s.pipeline.main with
  | .iterating, .releasing _ _ => 0
  | .iterating, _ => 1
  | _, _ => 0

/-! ### Connections -/

/-- `main` has no connection to lose. -/
def Unlinked (s : Capturer) : Prop :=
  s.supervisor = .outer ∧ s.pipeline.cancelled = false ∨ (∃ attempt, s.supervisor = .connecting attempt) ∨
    s.supervisor = .backoff ∨ s.supervisor = .stopped

structure Tidy (s : Capturer) : Prop where
  current : ∀ n, s.network.connectionOpen n = true → s.broker.conn = some n
  watched : ∀ n, s.broker.conn = some n → s.broker.notifyClose = some n
  unlinked : Unlinked s → ∀ n, s.network.connectionOpen n = false
  attempts : ∀ attempt, s.supervisor = .connecting attempt → 1 ≤ attempt ∧ attempt ≤ Capturer.retries
  ended : s.supervisor = .stopped → s.broker.ch = none

section

variable {cfg : Config} {enc : Encoders} {minInterval : Duration} {s s' : Capturer}
  {label : CapturerLabel} {labels : List CapturerLabel}

/-- A step that leaves broker and network as they are. -/
lemma Tidy.keep (hs : Tidy s) (hbroker : s'.broker = s.broker) (hnetwork : s'.network = s.network)
    (hunlinked : Unlinked s' → Unlinked s)
    (hattempts : ∀ attempt, s'.supervisor = .connecting attempt →
      1 ≤ attempt ∧ attempt ≤ Capturer.retries)
    (hended : s'.supervisor = .stopped → s.supervisor = .stopped) : Tidy s' := by
  refine ⟨?_, ?_, ?_, hattempts, ?_⟩
  · rw [hbroker, hnetwork]
    exact hs.current
  · rw [hbroker]
    exact hs.watched
  · rw [hnetwork]
    exact fun h => hs.unlinked (hunlinked h)
  · rw [hbroker]
    exact fun h => hs.ended (hended h)

/-- With no connection on its way, closing the broker leaves none open. -/
lemma Tidy.closed (hs : Tidy s) (n : ℕ) : s.closeBroker.network.connectionOpen n = false := by
  unfold Capturer.closeBroker
  cases hconn : s.broker.conn with
  | none =>
    cases hopen : s.network.connectionOpen n with
    | false => rfl
    | true => exact absurd (hconn.symm.trans (hs.current n hopen)) (by simp)
  | some m =>
    by_cases hnm : n = m
    · simp [Network.closeConnection, hnm]
    · cases hopen : s.network.connectionOpen n with
      | false => simpa [Network.closeConnection, hnm] using hopen
      | true => exact absurd (Option.some.inj (hconn.symm.trans (hs.current n hopen))) (Ne.symm hnm)

/-- After a notice the connection behind it was the last one. -/
lemma Tidy.notified (hs : Tidy s) (h : s.notified = true) (n : ℕ) :
    s.network.connectionOpen n = false := by
  cases hopen : s.network.connectionOpen n with
  | false => rfl
  | true =>
    have hwatched := hs.watched n (hs.current n hopen)
    simp [Capturer.notified, hwatched, hopen] at h

lemma Tidy.step (hs : Tidy s) (h : CapturerStep cfg enc minInterval s label s') : Tidy s' := by
  cases h with
  | connect hphase hcancelled =>
    refine hs.keep rfl rfl (fun _ => Or.inl ⟨hphase, hcancelled⟩) ?_ (by simp)
    rintro attempt ⟨⟩
    exact ⟨le_rfl, by decide⟩
  | @connected attempt hphase =>
    have hnone := hs.unlinked (Or.inr (Or.inl ⟨attempt, hphase⟩))
    refine ⟨?_, ?_, ?_, by simp, by simp⟩
    · intro n hopen
      by_cases hn : n = s.network.dialed
      · rw [hn]
      · simp [Network.dialOpen, hn, hnone n] at hopen
    · exact fun n hn => hn
    · rintro (⟨hphase, -⟩ | ⟨attempt, hphase⟩ | hphase | hphase)
      all_goals cases hphase
  | @dialFailed attempt outcome hphase hne =>
    have hnetwork : (s.network.afterFailure outcome).connectionOpen = s.network.connectionOpen := by
      cases outcome <;> rfl
    have hnone := hs.unlinked (Or.inr (Or.inl ⟨attempt, hphase⟩))
    have hbounds := hs.attempts attempt hphase
    refine ⟨?_, hs.watched, ?_, ?_, ?_⟩
    · rw [hnetwork]
      exact hs.current
    · rw [hnetwork]
      exact fun _ => hnone
    · intro attempt' hattempt
      by_cases hlt : attempt < Capturer.retries
      · rw [if_pos hlt] at hattempt
        obtain rfl := Supervisor.connecting.inj hattempt
        omega
      · rw [if_neg hlt] at hattempt
        cases hattempt
    · split_ifs <;> simp
  | retry hphase =>
    exact hs.keep rfl rfl (fun _ => Or.inr (Or.inr (Or.inl hphase))) (by simp) (by simp)
  | leave hphase hcancelled hnotified =>
    exact ⟨hs.current, hs.watched, fun _ => hs.notified hnotified, by simp, by simp⟩
  | stay hphase hcancelled hnotified =>
    refine hs.keep rfl rfl ?_ (by simp) (by simp)
    rintro (⟨hphase, -⟩ | ⟨attempt, hphase⟩ | hphase | hphase)
    all_goals cases hphase
  | innerDone hphase hcancelled =>
    refine hs.keep rfl rfl ?_ (by simp) (by simp)
    rintro (⟨-, hcancelled'⟩ | ⟨attempt, hphase⟩ | hphase | hphase)
    · cases hcancelled.symm.trans hcancelled'
    all_goals cases hphase
  | @iterate e o p hphase he hstep =>
    have hsupervisor : afterIteration p.main = .checking ∨ afterIteration p.main = .iterating := by
      cases p.main <;> simp [afterIteration]
    refine hs.keep rfl rfl ?_ ?_ ?_
    · rintro (⟨hphase, -⟩ | ⟨attempt, hphase⟩ | hphase | hphase)
      all_goals rcases hsupervisor with h | h <;> cases h.symm.trans hphase
    · intro attempt hphase
      rcases hsupervisor with h | h <;> cases h.symm.trans hphase
    · intro hphase
      rcases hsupervisor with h | h <;> cases h.symm.trans hphase
  | worker he hallowed hstep =>
    refine hs.keep rfl rfl ?_ hs.attempts id
    rintro (⟨hphase, hcancelled⟩ | h)
    · exact Or.inl ⟨hphase, (cancelled_kept (Or.inr he) hstep).symm.trans hcancelled⟩
    · exact Or.inr h
  | cancel =>
    refine hs.keep rfl rfl ?_ hs.attempts id
    rintro (⟨-, hcancelled⟩ | h)
    · cases hcancelled
    · exact Or.inr h
  | closeBroker hcancelled hlocked =>
    refine ⟨?_, ?_, fun _ => hs.closed, hs.attempts, fun _ => rfl⟩
    · intro n hopen
      cases (hs.closed n).symm.trans hopen
    · intro n hn
      cases hn
  | stop hphase hcancelled =>
    refine ⟨?_, ?_, fun _ => hs.closed, by simp, fun _ => rfl⟩
    · intro n hopen
      cases (hs.closed n).symm.trans hopen
    · intro n hn
      cases hn
  | channelClosed hopen => exact ⟨hs.current, hs.watched, hs.unlinked, hs.attempts, hs.ended⟩
  | @connectionClosed n hopen =>
    have hfewer : ∀ m, (s.network.closeConnection n).connectionOpen m = true →
        s.network.connectionOpen m = true := by
      intro m hm
      by_cases hmn : m = n
      · simp [Network.closeConnection, hmn] at hm
      · simpa [Network.closeConnection, hmn] using hm
    refine ⟨fun m hm => hs.current m (hfewer m hm), hs.watched, ?_, hs.attempts, hs.ended⟩
    intro hunlinked m
    rw [← Bool.not_eq_true]
    intro hm
    cases (hs.unlinked hunlinked m).symm.trans (hfewer m hm)

lemma Tidy.run (hs : Tidy s) (h : Run (CapturerStep cfg enc minInterval) s labels s') : Tidy s' := by
  induction h with
  | nil => exact hs
  | snoc _ hstep ih => exact ih.step hstep

lemma tidy_start (d : MacroblockDetector) : Tidy (Capturer.start d) := by
  refine ⟨?_, ?_, fun _ _ => rfl, ?_, ?_⟩
  · intro n hopen
    cases hopen
  · intro n hconn
    cases hconn
  · intro attempt hphase
    cases hphase
  · intro hphase
    cases hphase

/-! ### After a signal -/

/-- The budget of a run that begins after a signal. -/
structure Winding (s : Capturer) (after : List CapturerLabel) (s' : Capturer) : Prop where
  cancelled : s'.pipeline.cancelled = true
  nothing_new : ∀ label ∈ after, begins label = false
  dials : after.countP isDialOutcome + dialsLeft s'.supervisor ≤ dialsLeft s.supervisor
  submits : after.countP isSubmit + submitsLeft s' ≤ submitsLeft s

lemma Winding.refl (hcancelled : s.pipeline.cancelled = true) : Winding s [] s := by
  refine ⟨hcancelled, ?_, ?_, ?_⟩
  · intro label hlabel
    cases hlabel
  · simp
  · simp

/-- A step with its own share of the budget. -/
lemma Winding.snoc {t : Capturer} {after : List CapturerLabel} (hs : Winding t after s)
    (hcancelled : s'.pipeline.cancelled = s.pipeline.cancelled ∨ s'.pipeline.cancelled = true)
    (hnew : begins label = false)
    (hdials : (if isDialOutcome label then 1 else 0) + dialsLeft s'.supervisor ≤ dialsLeft s.supervisor)
    (hsubmits : (if isSubmit label then 1 else 0) + submitsLeft s' ≤ submitsLeft s) :
    Winding t (after ++ [label]) s' := by
  have hdialled := hs.dials
  have hsubmitted := hs.submits
  refine ⟨?_, ?_, ?_, ?_⟩
  · rcases hcancelled with h | h
    · exact h.trans hs.cancelled
    · exact h
  · intro l hl
    rcases List.mem_append.mp hl with hl | hl
    · exact hs.nothing_new l hl
    · rw [List.mem_singleton.mp hl]
      exact hnew
  · rw [List.countP_append, List.countP_singleton]
    omega
  · rw [List.countP_append, List.countP_singleton]
    omega

lemma submitsLeft_le (s : Capturer) : submitsLeft s ≤ 1 := by
  unfold submitsLeft
  split <;> omega

lemma submitsLeft_of_phase (h : s.supervisor ≠ .iterating) : submitsLeft s = 0 := by
  unfold submitsLeft
  split
  · rfl
  · exact absurd ‹_› h
  · rfl

lemma submitsLeft_before (hphase : s.supervisor = .iterating)
    (hmain : ∀ item readFailed, s.pipeline.main ≠ .releasing item readFailed) : submitsLeft s = 1 := by
  unfold submitsLeft
  split
  · exact absurd ‹_› (hmain _ _)
  · rfl
  · exact absurd hphase ‹_›

/-- Within an iteration `Submit` is called once, before the release. -/
lemma iterate_submits {e : PipelineEvent} {o : Observation} {p : Pipeline}
    (hphase : s.supervisor = .iterating) (he : isLoopEvent e = true)
    (h : s.pipeline.step cfg enc minInterval e = some (p, o)) :
    (if isSubmit (.iterate e o) then 1 else 0) +
      submitsLeft { s with pipeline := p, supervisor := afterIteration p.main } ≤ submitsLeft s := by
  cases step_moves h with
  | submitted hm | backpressure hm =>
    -- accepted, the iteration is over; refused, the item is released next
    rw [submitsLeft_before hphase (by simp [hm])]
    simp [isSubmit, submitsLeft, afterIteration]
  | mainRelease => simp [isSubmit, submitsLeft, afterIteration]
  | startError hm | reset hm | acquirePooled hm | acquireFresh hm | readChunk hm | readError hm
    | frameRead hm | skip hm | dispatch hm =>
    rw [submitsLeft_before hphase (by simp [hm])]
    simpa [isSubmit] using submitsLeft_le _
  | _ => cases he

lemma Winding.step {t : Capturer} {after : List CapturerLabel} (hs : Winding t after s) (htidy : Tidy s)
    (h : CapturerStep cfg enc minInterval s label s') : Winding t (after ++ [label]) s' := by
  have hcancelled := hs.cancelled
  cases h with
  | connect hphase hrunning => cases hcancelled.symm.trans hrunning
  | @connected attempt hphase =>
    have hbounds := htidy.attempts attempt hphase
    refine hs.snoc (Or.inl rfl) rfl ?_ (by rw [submitsLeft_of_phase (by simp)]; simp [isSubmit])
    rw [hphase]
    simp only [isDialOutcome, if_true, dialsLeft]
    omega
  | @dialFailed attempt outcome hphase hne =>
    have hbounds := htidy.attempts attempt hphase
    refine hs.snoc (Or.inl rfl) rfl ?_ ?_
    · rw [hphase]
      by_cases hlt : attempt < Capturer.retries
      · simp only [isDialOutcome, if_true, if_pos hlt, dialsLeft]
        omega
      · simp only [isDialOutcome, if_true, if_neg hlt, dialsLeft]
        omega
    · rw [submitsLeft_of_phase (by split_ifs <;> simp)]
      simp [isSubmit]
  | retry hphase =>
    exact hs.snoc (Or.inl rfl) rfl (by simp [isDialOutcome, dialsLeft])
      (by rw [submitsLeft_of_phase (by simp)]; simp [isSubmit])
  | leave hphase hrunning hnotified => cases hcancelled.symm.trans hrunning
  | stay hphase hrunning hnotified => cases hcancelled.symm.trans hrunning
  | innerDone hphase _ =>
    exact hs.snoc (Or.inl rfl) rfl (by simp [isDialOutcome, dialsLeft])
      (by rw [submitsLeft_of_phase (by simp)]; simp [isSubmit])
  | @iterate e o p hphase he hstep =>
    refine hs.snoc (Or.inl (cancelled_kept (Or.inl he) hstep)) rfl ?_ (iterate_submits hphase he hstep)
    cases p.main <;> simp [isDialOutcome, dialsLeft, afterIteration]
  | @worker e o p he hallowed hstep =>
    have hmain : p.main = s.pipeline.main := by
      cases step_moves hstep with
      | workerReceive | workerStop | encodeByte | encoded | encodingFailed | built | marshalFailed
        | published | publishFailed | workerRelease => rfl
      | _ => cases he
    refine hs.snoc (Or.inl (cancelled_kept (Or.inr he) hstep)) rfl (by simp [isDialOutcome]) ?_
    simp [isSubmit, submitsLeft, hmain]
  | cancel => exact hs.snoc (Or.inr rfl) rfl (by simp [isDialOutcome]) (by simp [isSubmit, submitsLeft])
  | closeBroker _ _ =>
    exact hs.snoc (Or.inl rfl) rfl (by simp [isDialOutcome, Capturer.closeBroker])
      (by simp [isSubmit, submitsLeft, Capturer.closeBroker])
  | stop hphase _ =>
    exact hs.snoc (Or.inl rfl) rfl (by simp [isDialOutcome, dialsLeft])
      (by rw [submitsLeft_of_phase (by simp)]; simp [isSubmit])
  | channelClosed _ =>
    exact hs.snoc (Or.inl rfl) rfl (by simp [isDialOutcome]) (by simp [isSubmit, submitsLeft])
  | connectionClosed _ =>
    exact hs.snoc (Or.inl rfl) rfl (by simp [isDialOutcome]) (by simp [isSubmit, submitsLeft])

/-- A run after a signal keeps to the budget. -/
lemma winds_down (htidy : Tidy s) (hcancelled : s.pipeline.cancelled = true)
    (h : Run (CapturerStep cfg enc minInterval) s labels s') : WindsDown labels := by
  have hinv : Tidy s' ∧ Winding s labels s' := by
    induction h with
    | nil => exact ⟨htidy, .refl hcancelled⟩
    | snoc _ hstep ih => exact ⟨ih.1.step hstep, ih.2.step ih.1 hstep⟩
  obtain ⟨-, hwinding⟩ := hinv
  have hdials := hwinding.dials
  have hsubmits := hwinding.submits
  have hsubmitsLeft := submitsLeft_le s
  refine ⟨hwinding.nothing_new, ?_, by omega⟩
  have hdialsLeft : dialsLeft s.supervisor ≤ Capturer.retries := by
    cases hphase : s.supervisor with
    | connecting attempt =>
      have hbounds := htidy.attempts attempt hphase
      rw [dialsLeft]
      omega
    | _ => exact Nat.zero_le _
  omega

/-! ### After the end of `main` -/

lemma over_step (htidy : Tidy s) (hphase : s.supervisor = .stopped)
    (h : CapturerStep cfg enc minInterval s label s') :
    s'.supervisor = .stopped ∧ isOfMain label = false ∧ isDelivery label = false := by
  have hdown : s.channelUp = false := by
    rw [Capturer.channelUp, htidy.ended hphase]
  cases h with
  | connect h | connected h | dialFailed h | retry h | leave h | stay h | innerDone h | iterate h
    | stop h => cases hphase.symm.trans h
  | @worker e o p he hallowed hstep =>
    refine ⟨hphase, rfl, ?_⟩
    cases step_moves hstep with
    | published _ => cases hdown.symm.trans hallowed.2
    | @publishFailed item message delivered _ =>
      cases delivered with
      | false => rfl
      | true => cases hdown.symm.trans (hallowed.2 rfl)
    | _ => rfl
  | cancel | closeBroker | channelClosed | connectionClosed => exact ⟨hphase, rfl, rfl⟩

lemma over_run (htidy : Tidy s) (hphase : s.supervisor = .stopped)
    (h : Run (CapturerStep cfg enc minInterval) s labels s') : IsOver labels := by
  have hinv : s'.supervisor = .stopped ∧ Tidy s' ∧ IsOver labels := by
    induction h with
    | nil =>
      refine ⟨hphase, htidy, ?_⟩
      intro label hlabel
      cases hlabel
    | snoc _ hstep ih =>
      obtain ⟨hstopped, htidied, hover⟩ := ih
      obtain ⟨hstopped', hlabel⟩ := over_step htidied hstopped hstep
      refine ⟨hstopped', htidied.step hstep, ?_⟩
      intro l hl
      rcases List.mem_append.mp hl with hl | hl
      · exact hover l hl
      · rw [List.mem_singleton.mp hl]
        exact hlabel
  exact hinv.2.2

/-- In every run: one connection at a time, a signal that is obeyed, and nothing left behind. -/
theorem shutdown_clean {d : MacroblockDetector} (h : CapturerRun cfg enc minInterval d labels s) :
    (∀ n, s.network.connectionOpen n = true → s.broker.conn = some n) ∧
    (s.supervisor = .stopped → ∀ n, s.network.connectionOpen n = false) ∧
    (∀ before after, labels = before ++ .cancel :: after → WindsDown after) ∧
    (∀ before after, labels = before ++ .stop :: after → IsOver after) := by
  have htidy := (tidy_start d).run h
  refine ⟨htidy.current, fun hstopped => htidy.unlinked (Or.inr (Or.inr (Or.inr hstopped))), ?_, ?_⟩
  · rintro before after rfl
    rw [← List.singleton_append, ← List.append_assoc] at h
    obtain ⟨s₂, hbefore, hafter⟩ := h.split
    obtain ⟨s₁, hrun, hstep⟩ := Run.snoc_iff.mp hbefore
    have hcancelled : s₂.pipeline.cancelled = true := by
      cases hstep
      rfl
    exact winds_down ((tidy_start d).run hbefore) hcancelled hafter
  · rintro before after rfl
    rw [← List.singleton_append, ← List.append_assoc] at h
    obtain ⟨s₂, hbefore, hafter⟩ := h.split
    obtain ⟨s₁, hrun, hstep⟩ := Run.snoc_iff.mp hbefore
    have hstopped : s₂.supervisor = .stopped := by
      cases hstep
      rfl
    exact over_run ((tidy_start d).run hbefore) hstopped hafter

end

/-! ### A short life -/

/-- A signal comes while the second attempt connects. -/
def shortLife : List CapturerLabel :=
  [.connect, .dial .channelFailed, .cancel, .dial .connected, .innerDone, .stop]

lemma shortLife_run (cfg : Config) (enc : Encoders) (minInterval : Duration) (d : MacroblockDetector) :
    ∃ s, CapturerRun cfg enc minInterval d shortLife s ∧ s.supervisor = .stopped := by
  have hconnect := Run.single
    (show CapturerStep cfg enc minInterval (Capturer.start d) .connect _ from .connect rfl rfl)
  have hfailed := hconnect.snoc (show CapturerStep cfg enc minInterval _ (.dial .channelFailed) _ from
    .dialFailed rfl (by decide))
  have hcancel := hfailed.snoc (show CapturerStep cfg enc minInterval _ .cancel _ from .cancel)
  have hdial := hcancel.snoc (show CapturerStep cfg enc minInterval _ (.dial .connected) _ from
    .connected rfl)
  have hinner := hdial.snoc (show CapturerStep cfg enc minInterval _ .innerDone _ from .innerDone rfl rfl)
  have hstop := hinner.snoc (show CapturerStep cfg enc minInterval _ .stop _ from .stop rfl rfl)
  exact ⟨_, hstop, rfl⟩

theorem shutdown_clean_shortLife : ∃ d s, CapturerRun twoPixelConfig plainEncoders 500 d shortLife s ∧
    (∀ n, s.network.connectionOpen n = false) ∧ WindsDown [.dial .connected, .innerDone, .stop] := by
  obtain ⟨d, -⟩ := twoFrames_run
  obtain ⟨s, hrun, hstopped⟩ := shortLife_run twoPixelConfig plainEncoders 500 d
  obtain ⟨-, hclosed, hsignal, -⟩ := shutdown_clean hrun
  exact ⟨d, s, hrun, hclosed hstopped, hsignal [.connect, .dial .channelFailed] _ rfl⟩

end IntruderWatch.Proofs
