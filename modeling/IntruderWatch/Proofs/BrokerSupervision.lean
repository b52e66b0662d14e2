import IntruderWatch.Proofs.FrameDelivery
import IntruderWatch.Supervision

/-!
# Which channel losses the supervision loop notices

The loop learns of a loss only from the connection. A run keeps track of what the server closed, so
that in the inner loop the state of the current channel and of `notifyClose` can be read off the
labels. A channel that is closed alone stays closed and unnoticed until its connection follows.
-/

namespace IntruderWatch.Proofs
open Transition

/-- In the inner loop, before shutdown. -/
def Connected (s : Capturer) : Prop :=
  (s.supervisor = .checking ∨ s.supervisor = .iterating) ∧ s.pipeline.cancelled = false

/-- The network as the labels left it: numbers from `dialed` on are unused, and in the inner loop
the broker is on one connection whose losses are in the labels. -/
structure NetworkFollows (labels : List CapturerLabel) (s : Capturer) : Prop where
  fresh : ∀ n, s.network.dialed ≤ n → s.network.connectionOpen n = false ∧
    s.network.channelOpen n = false ∧ .channelClosed n ∉ labels ∧ .connectionClosed n ∉ labels
  current : Connected s → ∃ n, s.broker = ⟨some n, some n, some n⟩ ∧
    (s.network.connectionOpen n = false ↔ .connectionClosed n ∈ labels) ∧
    (s.network.channelOpen n = false ↔ .channelClosed n ∈ labels ∨ .connectionClosed n ∈ labels)

section

variable {cfg : Config} {enc : Encoders} {minInterval : Duration} {s s' : Capturer}
  {label : CapturerLabel} {labels : List CapturerLabel}

/-- The server closes nothing with this label. -/
def isLoss : CapturerLabel → Bool
  | .channelClosed _ | .connectionClosed _ => true
  | _ => false

lemma mem_snoc_of_not_loss (h : isLoss label = false) (n : ℕ) :
    (CapturerLabel.channelClosed n ∈ labels ++ [label] ↔ .channelClosed n ∈ labels) ∧
    (CapturerLabel.connectionClosed n ∈ labels ++ [label] ↔ .connectionClosed n ∈ labels) := by
  cases label with
  | channelClosed | connectionClosed => cases h
  | _ => simp

lemma NetworkFollows.quiet (hs : NetworkFollows labels s) (hloss : isLoss label = false)
    (hbroker : s'.broker = s.broker) (hnetwork : s'.network = s.network)
    (hconnected : Connected s' → Connected s) : NetworkFollows (labels ++ [label]) s' := by
  constructor
  · intro n hn
    rw [hnetwork] at hn ⊢
    rw [(mem_snoc_of_not_loss hloss n).1, (mem_snoc_of_not_loss hloss n).2]
    exact hs.fresh n hn
  · intro hs'
    obtain ⟨n, hcurrent, hconnection, hchannel⟩ := hs.current (hconnected hs')
    refine ⟨n, hbroker.trans hcurrent, ?_, ?_⟩
    · rw [hnetwork, (mem_snoc_of_not_loss hloss n).2]
      exact hconnection
    · rw [hnetwork, (mem_snoc_of_not_loss hloss n).1, (mem_snoc_of_not_loss hloss n).2]
      exact hchannel

/-- Loop and worker do not cancel. -/
lemma cancelled_kept {e : PipelineEvent} {o : Observation} {p p' : Pipeline}
    (he : isLoopEvent e = true ∨ isWorkerEvent e = true)
    (h : p.step cfg enc minInterval e = some (p', o)) : p'.cancelled = p.cancelled := by
  cases step_moves h with
  | cancel => simp [isLoopEvent, isWorkerEvent] at he
  | _ => rfl

/-- Outside the inner loop nothing is said about the broker. -/
lemma NetworkFollows.left (hs : NetworkFollows labels s) (hloss : isLoss label = false)
    (hdialed : s.network.dialed ≤ s'.network.dialed)
    (hclosed : ∀ n, s.network.connectionOpen n = false ∧ s.network.channelOpen n = false →
      s'.network.connectionOpen n = false ∧ s'.network.channelOpen n = false)
    (hleft : ¬ Connected s') : NetworkFollows (labels ++ [label]) s' := by
  constructor
  · intro n hn
    obtain ⟨hconnection, hchannel, hlabels⟩ := hs.fresh n (hdialed.trans hn)
    obtain ⟨hconnection', hchannel'⟩ := hclosed n ⟨hconnection, hchannel⟩
    rw [(mem_snoc_of_not_loss hloss n).1, (mem_snoc_of_not_loss hloss n).2]
    exact ⟨hconnection', hchannel', hlabels⟩
  · intro hs'
    exact absurd hs' hleft

lemma not_connected_of_phase (h : s.supervisor ≠ .checking ∧ s.supervisor ≠ .iterating) :
    ¬ Connected s := by
  rintro ⟨hphase | hphase, -⟩
  · exact h.1 hphase
  · exact h.2 hphase

lemma closeBroker_network (n : ℕ) (hn : s.network.connectionOpen n = false ∧
    s.network.channelOpen n = false) : s.closeBroker.network.connectionOpen n = false ∧
      s.closeBroker.network.channelOpen n = false := by
  unfold Capturer.closeBroker
  cases s.broker.conn with
  | none => exact hn
  | some m =>
    by_cases h : n = m
    · subst h
      simp [Network.closeConnection]
    · simpa [Network.closeConnection, h] using hn

lemma network_connected (hs : NetworkFollows labels s) : NetworkFollows
    (labels ++ [.dial .connected])
    { s with
      broker := ⟨some s.network.dialed, some s.network.dialed, some s.network.dialed⟩
      network := s.network.dialOpen
      supervisor := .checking } := by
  have hloss : isLoss (.dial .connected) = false := rfl
  constructor
  · intro n hn
    change s.network.dialed + 1 ≤ n at hn
    rw [(mem_snoc_of_not_loss hloss n).1, (mem_snoc_of_not_loss hloss n).2]
    have hne : n ≠ s.network.dialed := by omega
    simpa [Network.dialOpen, hne] using hs.fresh n (by omega)
  · intro _
    obtain ⟨-, -, hchannel, hconnection⟩ := hs.fresh s.network.dialed le_rfl
    refine ⟨s.network.dialed, rfl, ?_, ?_⟩
    · rw [(mem_snoc_of_not_loss hloss _).2]
      simp [Network.dialOpen, hconnection]
    · rw [(mem_snoc_of_not_loss hloss _).1, (mem_snoc_of_not_loss hloss _).2]
      simp [Network.dialOpen, hconnection, hchannel]

lemma closeBroker_dialed : s.closeBroker.network.dialed = s.network.dialed := by
  unfold Capturer.closeBroker
  cases s.broker.conn <;> rfl

lemma mem_snoc_channel (n m : ℕ) :
    (CapturerLabel.channelClosed m ∈ labels ++ [.channelClosed n] ↔
      .channelClosed m ∈ labels ∨ m = n) ∧
    (CapturerLabel.connectionClosed m ∈ labels ++ [.channelClosed n] ↔
      .connectionClosed m ∈ labels) := by
  simp

lemma mem_snoc_connection (n m : ℕ) :
    (CapturerLabel.channelClosed m ∈ labels ++ [.connectionClosed n] ↔
      .channelClosed m ∈ labels) ∧
    (CapturerLabel.connectionClosed m ∈ labels ++ [.connectionClosed n] ↔
      .connectionClosed m ∈ labels ∨ m = n) := by
  simp

lemma network_channelClosed (hs : NetworkFollows labels s) {n : ℕ}
    (hopen : s.network.channelOpen n = true) : NetworkFollows (labels ++ [.channelClosed n])
      { s with network := s.network.closeChannel n } := by
  constructor
  · intro m hm
    obtain ⟨hconnection, hchannel, hlabels⟩ := hs.fresh m hm
    have hne : m ≠ n := by
      rintro rfl
      rw [hopen] at hchannel
      cases hchannel
    rw [(mem_snoc_channel n m).1, (mem_snoc_channel n m).2]
    simpa [Network.closeChannel, hne] using ⟨hconnection, hchannel, hlabels⟩
  · intro hs'
    obtain ⟨m, hcurrent, hconnection, hchannel⟩ := hs.current hs'
    refine ⟨m, hcurrent, ?_, ?_⟩
    · rw [(mem_snoc_channel n m).2]
      exact hconnection
    · rw [(mem_snoc_channel n m).1, (mem_snoc_channel n m).2]
      by_cases h : m = n
      · subst h
        simp [Network.closeChannel]
      · simpa [Network.closeChannel, h] using hchannel

lemma network_connectionClosed (hs : NetworkFollows labels s) {n : ℕ}
    (hopen : s.network.connectionOpen n = true) : NetworkFollows (labels ++ [.connectionClosed n])
      { s with network := s.network.closeConnection n } := by
  constructor
  · intro m hm
    obtain ⟨hconnection, hchannel, hlabels⟩ := hs.fresh m hm
    have hne : m ≠ n := by
      rintro rfl
      rw [hopen] at hconnection
      cases hconnection
    rw [(mem_snoc_connection n m).1, (mem_snoc_connection n m).2]
    simpa [Network.closeConnection, hne] using ⟨hconnection, hchannel, hlabels⟩
  · intro hs'
    obtain ⟨m, hcurrent, hconnection, hchannel⟩ := hs.current hs'
    refine ⟨m, hcurrent, ?_, ?_⟩
    · rw [(mem_snoc_connection n m).2]
      by_cases h : m = n
      · subst h
        simp [Network.closeConnection]
      · simpa [Network.closeConnection, h] using hconnection
    · rw [(mem_snoc_connection n m).1, (mem_snoc_connection n m).2]
      by_cases h : m = n
      · subst h
        simp [Network.closeConnection]
      · simpa [Network.closeConnection, h] using hchannel

lemma network_step (hs : NetworkFollows labels s)
    (h : CapturerStep cfg enc minInterval s label s') : NetworkFollows (labels ++ [label]) s' := by
  cases h with
  | connect | retry | leave | innerDone =>
    refine hs.left rfl le_rfl (fun _ => id) (not_connected_of_phase ?_)
    simp
  | connected => exact network_connected hs
  | @dialFailed attempt outcome hphase hne =>
    refine hs.left rfl ?_ ?_ (not_connected_of_phase ?_)
    · cases outcome <;> simp [Network.afterFailure, Network.dialClosed]
    · cases outcome <;> exact fun _ => id
    · split_ifs <;> simp
  | stay hphase hcancelled =>
    refine hs.quiet rfl rfl rfl ?_
    intro _
    exact ⟨Or.inl hphase, hcancelled⟩
  | iterate hphase he hstep =>
    refine hs.quiet rfl rfl rfl ?_
    rintro ⟨-, hcancelled⟩
    exact ⟨Or.inr hphase, (cancelled_kept (Or.inl he) hstep).symm.trans hcancelled⟩
  | worker he hallowed hstep =>
    refine hs.quiet rfl rfl rfl ?_
    rintro ⟨hphase, hcancelled⟩
    exact ⟨hphase, (cancelled_kept (Or.inr he) hstep).symm.trans hcancelled⟩
  | cancel =>
    refine hs.quiet rfl rfl rfl ?_
    rintro ⟨-, hcancelled⟩
    cases hcancelled
  | closeBroker hcancelled =>
    refine hs.left rfl closeBroker_dialed.ge closeBroker_network ?_
    rintro ⟨-, hrunning⟩
    cases hcancelled.symm.trans hrunning
  | stop hphase =>
    refine hs.left rfl closeBroker_dialed.ge closeBroker_network (not_connected_of_phase ?_)
    simp
  | channelClosed hopen => exact network_channelClosed hs hopen
  | connectionClosed hopen => exact network_connectionClosed hs hopen

lemma network_run {d : MacroblockDetector} (h : CapturerRun cfg enc minInterval d labels s) :
    NetworkFollows labels s := by
  apply h.invariant NetworkFollows
  · constructor
    · intro n _
      exact ⟨rfl, rfl, by simp, by simp⟩
    · exact fun hs => absurd hs (not_connected_of_phase (by simp [Capturer.start]))
  · intro labels s label s' hs hstep
    exact network_step hs hstep

/-! ### The next check -/

def isCheck : CapturerLabel → Bool
  | .check _ => true
  | _ => false

/-- Shutdown has begun, or the loop is on a connection that is closed. -/
def Doomed (n : ℕ) (s : Capturer) : Prop :=
  s.pipeline.cancelled = true ∨
    (s.supervisor = .checking ∨ s.supervisor = .iterating) ∧ s.broker.notifyClose = some n ∧
      s.network.connectionOpen n = false

lemma afterIteration_inner (m : MainState) :
    afterIteration m = .checking ∨ afterIteration m = .iterating := by
  cases m with
  | top => exact Or.inl rfl
  | _ => exact Or.inr rfl

lemma cancelled_step (h : CapturerStep cfg enc minInterval s label s')
    (hs : s.pipeline.cancelled = true) : s'.pipeline.cancelled = true := by
  cases h with
  | iterate _ he hstep => exact (cancelled_kept (Or.inl he) hstep).trans hs
  | worker he _ hstep => exact (cancelled_kept (Or.inr he) hstep).trans hs
  | cancel => rfl
  | _ => exact hs

lemma doomed_step {n : ℕ} (hs : Doomed n s) (hlabel : isCheck label = false)
    (h : CapturerStep cfg enc minInterval s label s') : Doomed n s' := by
  rcases hs with hcancelled | ⟨hphase, hnotify, hclosed⟩
  · exact Or.inl (cancelled_step h hcancelled)
  · cases h with
    | connect houter | connected houter | dialFailed houter | retry houter | stop houter =>
      rw [houter] at hphase
      simp at hphase
    | leave | stay => cases hlabel
    | innerDone _ hcancelled | closeBroker hcancelled => exact Or.inl hcancelled
    | iterate => exact Or.inr ⟨afterIteration_inner _, hnotify, hclosed⟩
    | worker => exact Or.inr ⟨hphase, hnotify, hclosed⟩
    | cancel => exact Or.inl rfl
    | channelClosed => exact Or.inr ⟨hphase, hnotify, hclosed⟩
    | @connectionClosed m hopen =>
      refine Or.inr ⟨hphase, hnotify, ?_⟩
      by_cases h : n = m
      · subst h
        simp [Network.closeConnection]
      · simpa [Network.closeConnection, h] using hclosed

lemma doomed_check {n : ℕ} {leaves : Bool} (hs : Doomed n s)
    (h : CapturerStep cfg enc minInterval s (.check leaves) s') : leaves = true := by
  cases h with
  | leave => rfl
  | stay hphase hrunning hquiet =>
    rcases hs with hcancelled | ⟨-, hnotify, hclosed⟩
    · cases hcancelled.symm.trans hrunning
    · simp [Capturer.notified, hnotify, hclosed] at hquiet

variable (cfg enc minInterval s)

/-- If the channel is closed, the next broker check leaves the inner loop. -/
def NextCheckLeaves : Prop :=
  s.channelUp = false → ∀ es s₁ leaves s₂, Run (CapturerStep cfg enc minInterval) s es s₁ →
    (∀ label ∈ es, isCheck label = false) →
    CapturerStep cfg enc minInterval s₁ (.check leaves) s₂ → leaves = true

/-- Every publish fails, and a broker check stays in the inner loop. -/
def Stuck (s : Capturer) : Prop :=
  s.channelUp = false ∧ s.notified = false

variable {cfg enc minInterval s}

lemma nextCheckLeaves_of_notified {n : ℕ} (hs : Connected s) (hnotify : s.broker.notifyClose = some n)
    (hclosed : s.network.connectionOpen n = false) : NextCheckLeaves cfg enc minInterval s := by
  intro _ es s₁ leaves s₂ hrun hquiet hcheck
  have hdoomed : (∀ label ∈ es, isCheck label = false) → Doomed n s₁ := by
    apply hrun.invariant (fun es s₁ => (∀ label ∈ es, isCheck label = false) → Doomed n s₁)
    · intro _
      exact Or.inr ⟨hs.1, hnotify, hclosed⟩
    · intro es s label s' ih hstep hall
      apply doomed_step (ih _) (hall label (by simp)) hstep
      intro l hl
      exact hall l (List.mem_append_left _ hl)
  exact doomed_check (hdoomed hquiet) hcheck

/-! ### Stuck states -/

/-- Neither shutdown nor the loss of a connection. -/
def isUneventful : CapturerLabel → Bool
  | .cancel | .connectionClosed _ => false
  | _ => true

/-- A message reaches the server, or a check leaves the inner loop. -/
def isSignOfLife : CapturerLabel → Bool
  | .worker (.published) _ | .check true => true
  | _ => false

/-- Without shutdown or the loss of a connection a stuck loop stays stuck. -/
lemma stuck_step (hs : Connected s ∧ Stuck s) (hlabel : isUneventful label = true)
    (h : CapturerStep cfg enc minInterval s label s') :
    (Connected s' ∧ Stuck s') ∧ isSignOfLife label = false := by
  obtain ⟨⟨hphase, hrunning⟩, hdown, hquiet⟩ := hs
  cases h with
  | connect houter | connected houter | dialFailed houter | retry houter | stop houter =>
    rw [houter] at hphase
    simp at hphase
  | leave _ _ hnotified => cases hquiet.symm.trans hnotified
  | stay => exact ⟨⟨⟨Or.inr rfl, hrunning⟩, hdown, hquiet⟩, rfl⟩
  | innerDone _ hcancelled | closeBroker hcancelled => cases hcancelled.symm.trans hrunning
  | iterate _ he hstep =>
    have hrunning' := (cancelled_kept (Or.inl he) hstep).trans hrunning
    exact ⟨⟨⟨afterIteration_inner _, hrunning'⟩, hdown, hquiet⟩, rfl⟩
  | @worker e o p he hallowed hstep =>
    have hrunning' := (cancelled_kept (Or.inr he) hstep).trans hrunning
    refine ⟨⟨⟨hphase, hrunning'⟩, hdown, hquiet⟩, ?_⟩
    cases e with
    | published => cases hdown.symm.trans hallowed.2
    | _ => rfl
  | cancel | connectionClosed => cases hlabel
  | @channelClosed n hopen =>
    refine ⟨⟨⟨hphase, hrunning⟩, ?_, hquiet⟩, rfl⟩
    unfold Capturer.channelUp at hdown ⊢
    cases hch : s.broker.ch with
    | none => rfl
    | some m =>
      rw [hch] at hdown
      by_cases hm : m = n
      · subst hm
        simp [Network.closeChannel]
      · simpa [Network.closeChannel, hm] using hdown

/-- Nothing gets out of a stuck state but shutdown or the loss of a connection. -/
def StuckForGood (cfg : Config) (enc : Encoders) (minInterval : Duration) (s : Capturer) : Prop :=
  ∀ es s₁, Run (CapturerStep cfg enc minInterval) s es s₁ → (∀ label ∈ es, isUneventful label = true) →
    Stuck s₁ ∧ ∀ label ∈ es, isSignOfLife label = false

lemma stuck_run (hs : Connected s) (hstuck : Stuck s) : StuckForGood cfg enc minInterval s := by
  intro es s₁ hrun huneventful
  have hinv := hrun.invariant (fun es s₁ => (∀ label ∈ es, isUneventful label = true) →
    (Connected s₁ ∧ Stuck s₁) ∧ ∀ label ∈ es, isSignOfLife label = false) ?_ ?_ huneventful
  · exact ⟨hinv.1.2, hinv.2⟩
  · intro _
    exact ⟨⟨hs, hstuck⟩, by simp⟩
  · intro es s label s' ih hstep hall
    obtain ⟨hbefore, hsigns⟩ := ih (fun l hl => hall l (List.mem_append_left _ hl))
    obtain ⟨hafter, hsign⟩ := stuck_step hbefore (hall label (by simp)) hstep
    refine ⟨hafter, ?_⟩
    intro l hl
    rcases List.mem_append.mp hl with hl | hl
    · exact hsigns l hl
    · obtain rfl := List.mem_singleton.mp hl
      exact hsign

/-- In the inner loop before shutdown a closed channel is noticed by the next check, and the loop is
not stuck with it, if and only if the server did not close the channel alone. A stuck loop publishes
nothing more and stays in the inner loop until shutdown or the loss of the connection. -/
theorem channel_loss_noticed_iff {d : MacroblockDetector}
    (h : CapturerRun cfg enc minInterval d labels s) (hs : Connected s) :
    ((NextCheckLeaves cfg enc minInterval s ∧ ¬ Stuck s) ↔
      ∀ n, s.broker.ch = some n → .channelClosed n ∈ labels → .connectionClosed n ∈ labels) ∧
    (Stuck s → StuckForGood cfg enc minInterval s) := by
  refine ⟨?_, stuck_run hs⟩
  obtain ⟨n, hbroker, hconnection, hchannel⟩ := (network_run h).current hs
  have hch : s.broker.ch = some n := by rw [hbroker]
  have hnotify : s.broker.notifyClose = some n := by rw [hbroker]
  have hup : s.channelUp = s.network.channelOpen n := by
    unfold Capturer.channelUp
    rw [hch]
  have hnotified : s.notified = !s.network.connectionOpen n := by
    unfold Capturer.notified
    rw [hnotify]
  constructor
  · rintro ⟨-, hstuck⟩ m hm hlost
    obtain rfl := Option.some.inj (hch.symm.trans hm)
    by_contra hkept
    rw [← hconnection, Bool.not_eq_false] at hkept
    apply hstuck
    exact ⟨hup.trans (hchannel.mpr (Or.inl hlost)), by rw [hnotified, hkept]; rfl⟩
  · intro hcond
    have hclosed : s.channelUp = false → s.network.connectionOpen n = false := by
      intro hdown
      rw [hconnection]
      rcases hchannel.mp (hup.symm.trans hdown) with hlost | hlost
      · exact hcond n hch hlost
      · exact hlost
    constructor
    · intro hdown
      exact nextCheckLeaves_of_notified hs hnotify (hclosed hdown) hdown
    · rintro ⟨hdown, hquiet⟩
      rw [hnotified, hclosed hdown] at hquiet
      cases hquiet

end

/-! ### A channel that is closed alone -/

section LostChannel

/-- Connected at the first attempt, then the server closes the channel. -/
def lostChannel : List CapturerLabel :=
  [.connect, .dial .connected, .channelClosed 0]

lemma lostChannel_run (cfg : Config) (enc : Encoders) (minInterval : Duration)
    (d : MacroblockDetector) : ∃ s, CapturerRun cfg enc minInterval d lostChannel s ∧
      Connected s ∧ Stuck s := by
  have hconnect := Run.single
    (show CapturerStep cfg enc minInterval (Capturer.start d) .connect _ from .connect rfl rfl)
  have hdial := hconnect.snoc (show CapturerStep cfg enc minInterval _ (.dial .connected) _ from
    .connected rfl)
  have hclosed := hdial.snoc (show CapturerStep cfg enc minInterval _ (.channelClosed 0) _ from
    .channelClosed rfl)
  exact ⟨_, hclosed, ⟨Or.inl rfl, rfl⟩, rfl, rfl⟩

/-- The loop is stuck with a channel that the server closed alone. -/
theorem lone_channel_loss_unnoticed : ¬ ∀ (d : MacroblockDetector) (labels : List CapturerLabel)
    (s : Capturer), CapturerRun twoPixelConfig plainEncoders 500 d labels s → Connected s →
    NextCheckLeaves twoPixelConfig plainEncoders 500 s ∧ ¬ Stuck s := by
  intro hclaim
  obtain ⟨d, -⟩ := twoFrames_run
  obtain ⟨s, hrun, hconnected, hstuck⟩ := lostChannel_run twoPixelConfig plainEncoders 500 d
  exact (hclaim d lostChannel s hrun hconnected).2 hstuck

theorem channel_loss_noticed_iff_lostChannel : ∃ d s,
    CapturerRun twoPixelConfig plainEncoders 500 d lostChannel s ∧
    ((NextCheckLeaves twoPixelConfig plainEncoders 500 s ∧ ¬ Stuck s) ↔
      ∀ n, s.broker.ch = some n → .channelClosed n ∈ lostChannel → .connectionClosed n ∈ lostChannel) ∧
    (Stuck s → StuckForGood twoPixelConfig plainEncoders 500 s) := by
  obtain ⟨d, -⟩ := twoFrames_run
  obtain ⟨s, hrun, hconnected, -⟩ := lostChannel_run twoPixelConfig plainEncoders 500 d
  exact ⟨d, s, hrun, channel_loss_noticed_iff hrun hconnected⟩

end LostChannel

end IntruderWatch.Proofs
