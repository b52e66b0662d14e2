import IntruderWatch.Library.Histories
import IntruderWatch.Proofs.AlertCallback

/-!
# The photo cooldown over whole runs

The stamp of a camera is the start of its latest sender thread, in every reachable state of the
service and whatever became of the sender. From this every suppression follows an earlier start.
-/

namespace IntruderWatch.Proofs
open Py Interaction

/-- The sender posts a photo alert of this camera. -/
def ForCamera (key : Key) (sender : Sender) : Prop :=
  sender.alert.cameraId.toKey = .ok key

/-- `now - last <= cooldown`, in floats as the callback computes it. -/
def Within (cooldown : Integer) (now last : WallTime) : Prop :=
  ∃ neg a, now.elapsed last = .finite neg a ∧ Binary64.signed neg a ≤ cooldown.val

/-- The cameras whose photo alert a callback suppressed. -/
def suppressedCameras (calls : AlertTrace) : List Json :=
  calls.filterMap (fun call => match call.1 with
    | .logNtfySuppressed _ camera => some camera
    | _ => none)

def startFor (key : Key) (sender : Sender) : Option WallTime :=
  if sender.alert.cameraId.toKey = .ok key then some sender.started else none

/-- The stamps are the starts of the latest senders. -/
def StampsFollow (s : AlertService) : Prop :=
  ∀ key, s.state.lastNtfyTimes key = History.latestOf (startFor key) s.senders

/-! ### One callback -/

section Callback

variable {env : AlertEnv} {body : List UInt8} {now : WallTime} {s s' : AlertState}
  {t : AlertTrace} {r : Except Exn Unit}

lemma startedAlerts_append (t₁ t₂ : AlertTrace) :
    startedAlerts (t₁ ++ t₂) = startedAlerts t₁ ++ startedAlerts t₂ :=
  List.filterMap_append

lemma suppressedCameras_append (t₁ t₂ : AlertTrace) :
    suppressedCameras (t₁ ++ t₂) = suppressedCameras t₁ ++ suppressedCameras t₂ :=
  List.filterMap_append

lemma call_reads {alert : Alert} (h : CallRuns env alert now s t r s') :
    startedAlerts t = [] ∧ suppressedCameras t = [] ∧ s'.lastNtfyTimes = s.lastNtfyTimes := by
  cases h <;> exact ⟨rfl, rfl, rfl⟩

/-- What a callback does about the photo alert. -/
inductive NtfyDecision (env : AlertEnv) (now : WallTime) (s : AlertState) :
    List Alert → List Json → (Key → Option WallTime) → Prop
  | silent : NtfyDecision env now s [] [] s.lastNtfyTimes
  | dispatched {alert : Alert} {key : Key} : alert.cameraId.toKey = .ok key →
      NtfyDecision env now s [alert] [] (Function.update s.lastNtfyTimes key (some now))
  | suppressed {camera : Json} {key : Key} : camera.toKey = .ok key →
      now.cooledDown env.ntfyCooldown (s.lastCamNtfy key) = false →
      NtfyDecision env now s [] [camera] s.lastNtfyTimes

lemma ntfy_decision {alert : Alert} (h : NtfyRuns env alert now s t r s') :
    NtfyDecision env now s (startedAlerts t) (suppressedCameras t) s'.lastNtfyTimes := by
  cases h with
  | unhashable => exact .silent
  | dispatched hkey => exact .dispatched hkey
  | overflow => exact .silent
  | suppressed hkey hcool => exact .suppressed hkey hcool

/-- What a callback reads and stamps for photos is what its photo part does, if it comes so far. -/
lemma callback_ntfy (h : Exec (env.callback body now) s t r s') :
    ((∀ alert camera timestamp, ¬ Opened env body alert camera timestamp) ∧
      startedAlerts t = [] ∧ suppressedCameras t = [] ∧ s'.lastNtfyTimes = s.lastNtfyTimes) ∨
    ∃ alert camera timestamp t₁ r₁ s₁, Opened env body alert camera timestamp ∧
      NtfyRuns env alert now s t₁ r₁ s₁ ∧ startedAlerts t = startedAlerts t₁ ∧
      suppressedCameras t = suppressedCameras t₁ ∧ s'.lastNtfyTimes = s₁.lastNtfyTimes := by
  have hopening : ∀ (alert : Alert) (camera timestamp : Str),
      startedAlerts (opening alert camera timestamp) = [] ∧
      suppressedCameras (opening alert camera timestamp) = [] := fun _ _ _ => ⟨rfl, rfl⟩
  cases exec_callback h with
  | unreadable hparse =>
    refine Or.inl ⟨?_, rfl, rfl, rfl⟩
    intro alert camera timestamp hopen
    cases hopen.parsed.symm.trans hparse
  | unprintable hparse hraise =>
    refine Or.inl ⟨?_, rfl, rfl, rfl⟩
    intro alert camera timestamp hopen
    obtain rfl := Except.ok.inj (hopen.parsed.symm.trans hparse)
    rcases hraise with hraise | hraise
    · cases hopen.camera.symm.trans hraise
    · cases hopen.timestamp.symm.trans hraise
  | @ntfyRaised alert camera timestamp t e s₁ hopen hntfy =>
    obtain ⟨ho, ho'⟩ := hopening alert camera timestamp
    refine Or.inr ⟨_, _, _, _, _, _, hopen, hntfy, ?_, ?_, rfl⟩
    · rw [startedAlerts_append, ho, List.nil_append]
    · rw [suppressedCameras_append, ho', List.nil_append]
  | @callRaised alert camera timestamp t₁ t₂ e s₁ s₂ hopen hntfy hcall =>
    obtain ⟨ho, ho'⟩ := hopening alert camera timestamp
    obtain ⟨hc, hc', hstamps⟩ := call_reads hcall
    refine Or.inr ⟨_, _, _, _, _, _, hopen, hntfy, ?_, ?_, hstamps⟩
    · rw [startedAlerts_append, startedAlerts_append, ho, hc, List.nil_append, List.append_nil]
    · rw [suppressedCameras_append, suppressedCameras_append, ho', hc', List.nil_append,
        List.append_nil]
  | @acked alert camera timestamp t₁ t₂ s₁ s₂ hopen hntfy hcall =>
    obtain ⟨ho, ho'⟩ := hopening alert camera timestamp
    obtain ⟨hc, hc', hstamps⟩ := call_reads hcall
    have hack : startedAlerts [⟨.basicAck, ()⟩] = [] ∧ suppressedCameras [⟨.basicAck, ()⟩] = [] :=
      ⟨rfl, rfl⟩
    refine Or.inr ⟨_, _, _, _, _, _, hopen, hntfy, ?_, ?_, hstamps⟩
    · simp only [startedAlerts_append, ho, hc, hack.1, List.nil_append, List.append_nil]
    · simp only [suppressedCameras_append, ho', hc', hack.2, List.nil_append, List.append_nil]

/-- Only the photo part of the callback starts senders and touches the stamps. -/
lemma callback_decision (h : Exec (env.callback body now) s t r s') :
    NtfyDecision env now s (startedAlerts t) (suppressedCameras t) s'.lastNtfyTimes := by
  rcases callback_ntfy h with ⟨-, hstarted, hsuppressed, hstamps⟩ |
    ⟨alert, camera, timestamp, t₁, r₁, s₁, -, hntfy, hstarted, hsuppressed, hstamps⟩
  · rw [hstarted, hsuppressed, hstamps]
    exact .silent
  · rw [hstarted, hsuppressed, hstamps]
    exact ntfy_decision hntfy

end Callback

/-! ### The stamps -/

section Stamps

variable {env : AlertEnv} {s s' : AlertService} {label : ServiceLabel}

lemma startFor_start (now : WallTime) (alert : Alert) (key : Key) :
    startFor key (Sender.start env now alert) =
      if alert.cameraId.toKey = .ok key then some now else none := rfl

lemma stampsFollow_start : StampsFollow AlertService.start :=
  fun _ => rfl

/-- Every step keeps the stamps in line with the senders. -/
lemma stampsFollow_step (hs : StampsFollow s) (h : ServiceStep env s label s') :
    StampsFollow s' := by
  intro key
  cases h with
  | @deliver body now calls result state _ hexec =>
    have hdecision := callback_decision hexec
    generalize hstarted : startedAlerts calls = started at hdecision ⊢
    generalize suppressedCameras calls = suppressed at hdecision
    generalize hstamps : state.lastNtfyTimes = stamps at hdecision ⊢
    cases hdecision with
    | silent =>
      rw [List.map_nil, List.append_nil]
      exact hs key
    | suppressed =>
      rw [List.map_nil, List.append_nil]
      exact hs key
    | @dispatched alert key' hkey =>
      rw [List.map_singleton, History.latestOf_snoc, startFor_start, hkey]
      by_cases heq : key = key'
      · rw [heq, Function.update_self, if_pos rfl]
        rfl
      · have hne : ¬ (Except.ok key' : Except Exn Key) = .ok key := by
          intro h
          exact heq (Except.ok.inj h).symm
        rw [Function.update_of_ne heq, if_neg hne]
        exact hs key
  | @reply i sender op answer k hi _ =>
    have hset := History.latestOf_set (f := startFor key)
      (y := { sender with past := sender.past ++ [⟨op, answer⟩], rest := k answer }) hi rfl
    exact (hs key).trans hset.symm

lemma stampsFollow_run {labels : List ServiceLabel} (h : ServiceRun env labels s) :
    StampsFollow s :=
  h.stateInvariant StampsFollow stampsFollow_start (fun _ _ _ => stampsFollow_step)

end Stamps

/-! ### Suppressed alerts -/

lemma within_of_cooledDown {cooldown : Integer} {now last : WallTime}
    (h : now.cooledDown cooldown last = false) : Within cooldown now last := by
  obtain ⟨neg, m, hel, -⟩ := elapsed_finite now last
  refine ⟨neg, m, hel, ?_⟩
  unfold WallTime.cooledDown at h
  rw [hel] at h
  simpa [Binary64.gtInt] using h

/-- In every run of the service, a photo alert is suppressed only within the cooldown of an
earlier one of its camera, whatever became of that one, or of the initial stamp `0`. -/
theorem suppression_follows_start {env : AlertEnv} {labels : List ServiceLabel}
    {s s' : AlertService} {body : List UInt8} {now : WallTime} {calls : AlertTrace} {camera : Json}
    {key : Key} (hrun : ServiceRun env labels s)
    (hstep : ServiceStep env s (.delivered body now calls) s')
    (hcamera : camera ∈ suppressedCameras calls) (hkey : camera.toKey = .ok key) :
    ((∀ sender ∈ s.senders, ¬ ForCamera key sender) ∧ Within env.ntfyCooldown now .zero) ∨
      ∃ sender ∈ s.senders, ForCamera key sender ∧ Within env.ntfyCooldown now sender.started := by
  have hstamp := stampsFollow_run hrun key
  have hwithin : Within env.ntfyCooldown now (s.state.lastCamNtfy key) := by
    cases hstep with
    | @deliver _ _ _ _ state _ hexec =>
      have hdecision := callback_decision hexec
      generalize startedAlerts calls = started at hdecision
      generalize state.lastNtfyTimes = stamps at hdecision
      generalize suppressedCameras calls = suppressed at hdecision hcamera
      cases hdecision with
      | silent => cases hcamera
      | dispatched => cases hcamera
      | @suppressed camera' key' hkey' hcool =>
        obtain rfl := List.mem_singleton.mp hcamera
        obtain rfl := Except.ok.inj (hkey.symm.trans hkey')
        exact within_of_cooledDown hcool
  unfold AlertState.lastCamNtfy at hwithin
  rw [hstamp] at hwithin
  cases hlatest : History.latestOf (startFor key) s.senders with
  | none =>
    rw [hlatest] at hwithin
    refine Or.inl ⟨?_, hwithin⟩
    intro sender hsender hfor
    have hnone := History.latestOf_eq_none hlatest sender hsender
    simp [startFor, show sender.alert.cameraId.toKey = .ok key from hfor] at hnone
  | some started =>
    rw [hlatest] at hwithin
    obtain ⟨sender, hsender, hstart⟩ := History.latestOf_eq_some hlatest
    unfold startFor at hstart
    split_ifs at hstart with hfor
    obtain rfl := Option.some.inj hstart
    exact Or.inr ⟨sender, hsender, hfor, hwithin⟩

/-! ### A failed photo alert -/

section FailedPost

instance neZero_seconds : NeZero 1000 := ⟨by norm_num⟩

/-- A reading of `time.time()` at a whole number of seconds. -/
def atSecond (n : Fin 1000) : WallTime where
  neg := false
  seconds := ⟨n.val, isMagnitude_natCast (by omega)⟩
  bound := by
    have hn : (n.val : ℚ) ≤ 1000 := by exact_mod_cast n.2.le
    exact hn.trans (by norm_num)

/-- The receive times of the deliveries. -/
def receiveTimes (labels : List ServiceLabel) : List ℚ :=
  labels.filterMap (fun label => match label with
    | .delivered _ now _ => some (Binary64.signed now.neg now.seconds)
    | .replied _ _ => none)

/-- The body `{"filename":"a/b/c/d"}`. -/
def photoBody : List UInt8 :=
  [123, 34, 102, 105, 108, 101, 110, 97, 109, 101, 34, 58, 34, 97, 47, 98, 47, 99, 47, 100, 34, 125]

def photoAlert : Alert := { fallbackAlert with filename := .str (lit "a/b/c/d") }

/-- The service at 110 s: the POST of the alert of 100 s has failed, the same alert comes again. -/
def FailedPost (labels : List ServiceLabel) (s s' : AlertService) (calls : AlertTrace) : Prop :=
  ServiceRun defaultAlertEnv labels s ∧ receiveTimes labels = [100] ∧
    ServiceStep defaultAlertEnv s (.delivered photoBody (atSecond 110) calls) s' ∧
    unknown ∈ suppressedCameras calls ∧
    ∃ sender, s.senders = [sender] ∧ ¬ sender.InProgress ∧ ¬ sender.Succeeded

/-- The tables after the first delivery. -/
def stamped : AlertState where
  lastCallTime := .zero
  lastNtfyTimes := Function.update (fun _ => none) (.str (lit "unknown")) (some (atSecond 100))

lemma lastCamNtfy_stamped : stamped.lastCamNtfy (.str (lit "unknown")) = atSecond 100 := by
  unfold AlertState.lastCamNtfy stamped
  dsimp only
  rw [Function.update_self, Option.getD_some]

/-- The sender of the alert: its POST, and what it does when the POST raises. -/
lemma photoSender_post : ∃ url data headers k,
    (Sender.start defaultAlertEnv (atSecond 100) photoAlert).rest =
        .call (.post url data headers) k ∧
      k (.error .osError) = .call (.notificationErrors unknown .osError) fun _ => .ret (.ok (), ()) :=
  ⟨_, _, _, _, rfl, rfl⟩

lemma not_succeeded_of_past {sender : Sender} {url : Str} {data : List UInt8}
    {headers : List (Str × Str)} {reply : Except Exn ℕ} {camera : Json} {e : Exn}
    (hpast : sender.past = [⟨.post url data headers, reply⟩, ⟨.notificationErrors camera e, ()⟩]) :
    ¬ sender.Succeeded := by
  rintro ⟨-, h⟩
  rw [hpast, List.mem_cons, List.mem_singleton] at h
  rcases h with h | h
  · cases congrArg Sigma.fst h
  · cases congrArg Sigma.fst h

lemma failedPost_exists : ∃ labels s s' calls, FailedPost labels s s' calls := by
  have hopen : Opened defaultAlertEnv photoBody photoAlert (lit "unknown") (lit "unknown") :=
    ⟨rfl, rfl, rfl⟩
  have hkey : photoAlert.cameraId.toKey = .ok (.str (lit "unknown")) := rfl
  have hfirst : NtfyRuns defaultAlertEnv photoAlert (atSecond 100) .start
      [⟨.startNtfy photoAlert, ()⟩] (.ok ()) stamped := .dispatched hkey (by decide +kernel)
  obtain ⟨remaining, hrem⟩ := @remaining_isOk defaultAlertEnv.ntfyCooldown
    (fitsFloat_small 60 (by norm_num [maxStrDigits])) (atSecond 110) (atSecond 100)
  have hcool : (atSecond 110).cooledDown defaultAlertEnv.ntfyCooldown
      (atSecond 100) = false := by decide +kernel
  rw [← lastCamNtfy_stamped] at hcool hrem
  have hsecond : NtfyRuns defaultAlertEnv photoAlert (atSecond 110) stamped
      [⟨.logNtfySuppressed remaining unknown, ()⟩, ⟨.alertsSuppressed unknown, ()⟩] (.ok ())
      stamped := .suppressed hkey hcool hrem
  have hexec := callback_acked hopen hfirst (.disabled rfl)
  have hexec' := callback_acked hopen hsecond (.disabled rfl)
  have hrun1 := Transition.Run.single (ServiceStep.deliver (s := AlertService.start) rfl hexec)
  obtain ⟨url, data, headers, k, hpost, herror⟩ := photoSender_post
  have hrun2 := hrun1.snoc (show ServiceStep defaultAlertEnv _
    (.replied 0 ⟨.post url data headers, .error .osError⟩) _ from .reply rfl hpost)
  have hrun3 := hrun2.snoc (show ServiceStep defaultAlertEnv _
    (.replied 0 ⟨.notificationErrors unknown .osError, ()⟩) _ from .reply rfl herror)
  refine ⟨_, _, _, _, hrun3, ?_, ServiceStep.deliver rfl hexec', ?_, _, rfl, ?_, ?_⟩
  · have h100 : Binary64.signed false (atSecond 100).seconds = 100 := rfl
    exact congrArg (fun q => [q]) h100
  · simp [suppressedCameras, opening]
  · rintro ⟨op, k', h⟩
    cases h
  · exact not_succeeded_of_past rfl

/-- A photo alert whose POST failed suppresses the next one of its camera. -/
theorem failed_post_suppresses : ¬ ∀ (labels : List ServiceLabel) (s s' : AlertService)
    (body : List UInt8) (now : WallTime) (calls : AlertTrace) (camera : Json) (key : Key),
    ServiceRun defaultAlertEnv labels s →
    ServiceStep defaultAlertEnv s (.delivered body now calls) s' →
    (receiveTimes (labels ++ [.delivered body now calls])).Pairwise (· ≤ ·) →
    camera ∈ suppressedCameras calls → camera.toKey = .ok key →
    ∃ sender ∈ s.senders, ForCamera key sender ∧
      Within defaultAlertEnv.ntfyCooldown now sender.started ∧
      (sender.Succeeded ∨ sender.InProgress) := by
  intro hclaim
  obtain ⟨labels, s, s', calls, hrun, htimes, hstep, hmem, sender, hsenders, hprogress, hfailed⟩ :=
    failedPost_exists
  have hordered : (receiveTimes (labels ++ [.delivered photoBody (atSecond 110) calls])).Pairwise
      (· ≤ ·) := by
    have happend : receiveTimes (labels ++ [.delivered photoBody (atSecond 110) calls]) =
        receiveTimes labels ++ [110] := List.filterMap_append
    rw [happend, htimes]
    norm_num
  obtain ⟨sender', hmem', -, -, h⟩ := hclaim labels s s' photoBody (atSecond 110) calls unknown
    (.str (lit "unknown")) hrun hstep hordered hmem rfl
  rw [hsenders, List.mem_singleton] at hmem'
  subst hmem'
  exact h.elim hfailed hprogress

/-- The alert of 110 s is suppressed within the cooldown of the one of 100 s. -/
theorem suppression_follows_start_failedPost : ∃ labels s s' calls,
    FailedPost labels s s' calls ∧
    (((∀ sender ∈ s.senders, ¬ ForCamera (.str (lit "unknown")) sender) ∧
        Within defaultAlertEnv.ntfyCooldown (atSecond 110) .zero) ∨
      ∃ sender ∈ s.senders, ForCamera (.str (lit "unknown")) sender ∧
        Within defaultAlertEnv.ntfyCooldown (atSecond 110) sender.started) := by
  obtain ⟨labels, s, s', calls, hfailed⟩ := failedPost_exists
  exact ⟨labels, s, s', calls, hfailed,
    suppression_follows_start hfailed.1 hfailed.2.2.1 hfailed.2.2.2.1 rfl⟩

end FailedPost

end IntruderWatch.Proofs
