import IntruderWatch.Proofs.PhotoSelection

/-!
# Alerts received and alerts suppressed

The two cooldowns share one counter. An alert whose photo and whose call fall into their windows
is counted twice as suppressed; the counts add up in the runs without such an alert, and in no
others.
-/

namespace IntruderWatch.Proofs
open Py Interaction

/-! ### The two counters -/

/-- The cameras with which `ALERTS_TOTAL` is incremented. -/
def totalIncrements (t : AlertTrace) : List Json :=
  t.filterMap (fun c => match c.1 with
    | .alertsTotal camera => some camera
    | _ => none)

/-- The cameras with which `ALERTS_SUPPRESSED` is incremented. -/
def suppressedIncrements (t : AlertTrace) : List Json :=
  t.filterMap (fun c => match c.1 with
    | .alertsSuppressed camera => some camera
    | _ => none)

/-- The value of a counter for a label, which is the text of a camera. -/
def labelled (env : AlertEnv) (label : Str) (cameras : List Json) : ℕ :=
  cameras.countP (fun camera => (env.text camera).toOption = some label)

/-- The calls of all callbacks so far. -/
def callbackCalls (labels : List ServiceLabel) : AlertTrace :=
  labels.flatMap (fun label => match label with
    | .delivered _ _ calls => calls
    | .replied _ _ => [])

/-- At every moment at most as many alerts of a label are suppressed as were received, and an
alert increments the count of suppressed ones at most once. -/
structure SuppressionAddsUp (env : AlertEnv) (labels : List ServiceLabel) : Prop where
  bounded : ∀ t, t <+: callbackCalls labels → ∀ label,
    labelled env label (suppressedIncrements t) ≤ labelled env label (totalIncrements t)
  once : ∀ body now calls, .delivered body now calls ∈ labels → ∀ label,
    labelled env label (suppressedIncrements calls) ≤ 1

/-! ### One alert -/

section Callback

variable (env : AlertEnv) (alert : Alert) (now : WallTime) (s : AlertState)

def InPhotoWindow : Prop :=
  ∃ key, alert.cameraId.toKey = .ok key ∧
    now.cooledDown env.ntfyCooldown (s.lastCamNtfy key) = false

def InCallWindow : Prop :=
  env.enableCallAlerts = true ∧ now.cooledDown env.alertCooldown s.lastCallTime = false

/-- The alert falls into the window of its camera's last photo and into that of the last call. -/
def InBothWindows (body : List UInt8) : Prop :=
  ∃ alert, env.parseAlert body = .ok alert ∧ InPhotoWindow env alert now s ∧ InCallWindow env now s

variable {env alert now s} {s' : AlertState} {t : AlertTrace} {r : Except Exn Unit}

lemma suppressedIncrements_append (t₁ t₂ : AlertTrace) :
    suppressedIncrements (t₁ ++ t₂) = suppressedIncrements t₁ ++ suppressedIncrements t₂ :=
  List.filterMap_append

lemma totalIncrements_append (t₁ t₂ : AlertTrace) :
    totalIncrements (t₁ ++ t₂) = totalIncrements t₁ ++ totalIncrements t₂ :=
  List.filterMap_append

open Classical in
lemma ntfy_increments (h : NtfyRuns env alert now s t (.ok ()) s') :
    s'.lastCallTime = s.lastCallTime ∧ suppressedIncrements t =
      List.replicate (if InPhotoWindow env alert now s then 1 else 0) alert.cameraId := by
  cases h with
  | @dispatched key hkey hcool =>
    have hnot : ¬ InPhotoWindow env alert now s := by
      rintro ⟨key', hkey', hcool'⟩
      obtain rfl := Except.ok.inj (hkey.symm.trans hkey')
      rw [hcool] at hcool'
      cases hcool'
    rw [if_neg hnot]
    exact ⟨rfl, rfl⟩
  | suppressed hkey hcool =>
    rw [if_pos ⟨_, hkey, hcool⟩]
    exact ⟨rfl, rfl⟩

open Classical in
lemma call_increments (h : CallRuns env alert now s t (.ok ()) s') :
    suppressedIncrements t =
      List.replicate (if InCallWindow env now s then 1 else 0) alert.cameraId := by
  cases h with
  | disabled hdisabled =>
    rw [if_neg (fun hwindow => Bool.false_ne_true (hdisabled.symm.trans hwindow.1))]
    rfl
  | dispatched _ hcool =>
    rw [if_neg (fun hwindow => Bool.false_ne_true (hwindow.2.symm.trans hcool))]
    rfl
  | suppressed henabled hcool =>
    rw [if_pos ⟨henabled, hcool⟩]
    rfl

/-- The alert is received first, and then suppressed once for every window that it falls into. -/
lemma callback_increments {body : List UInt8} (h : Exec (env.callback body now) s t (.ok ()) s') :
    ∃ alert camera rest n, env.parseAlert body = .ok alert ∧ env.text alert.cameraId = .ok camera ∧
      t = ⟨.alertsTotal alert.cameraId, ()⟩ :: rest ∧
      suppressedIncrements t = List.replicate n alert.cameraId ∧
      (n ≤ 1 ↔ ¬ InBothWindows env now s body) := by
  classical
  cases exec_callback h with
  | @acked alert camera timestamp t₁ t₂ s₁ s₂ hopen hntfy hcall =>
    obtain ⟨hstamp, hphoto⟩ := ntfy_increments hntfy
    have hcalls := call_increments hcall
    have hboth : InBothWindows env now s body ↔
        InPhotoWindow env alert now s ∧ InCallWindow env now s := by
      constructor
      · rintro ⟨alert', hparse, hwindows⟩
        rwa [Except.ok.inj (hopen.parsed.symm.trans hparse)]
      · exact fun hwindows => ⟨alert, hopen.parsed, hwindows⟩
    have hwindow : InCallWindow env now s₁ ↔ InCallWindow env now s := by
      unfold InCallWindow
      rw [hstamp]
    have hnone : suppressedIncrements [⟨.basicAck, ()⟩] = [] ∧
        suppressedIncrements (opening alert camera timestamp) = [] := ⟨rfl, rfl⟩
    refine ⟨alert, camera, _, (if InPhotoWindow env alert now s then 1 else 0) +
      (if InCallWindow env now s then 1 else 0), hopen.parsed, hopen.camera, rfl, ?_, ?_⟩
    · simp only [suppressedIncrements_append, hnone.1, hnone.2, hphoto, hcalls, hwindow,
        List.nil_append, List.append_nil, List.replicate_append_replicate]
    · rw [hboth]
      split_ifs with hp hc <;> simp [*]

/-- The alert has a label, so that a second increment shows in the counter. -/
lemma labelled_le_one_iff {body : List UInt8} (h : Exec (env.callback body now) s t (.ok ()) s') :
    (∀ label, labelled env label (suppressedIncrements t) ≤ 1) ↔ ¬ InBothWindows env now s body := by
  obtain ⟨alert, camera, rest, n, -, hcamera, -, hsuppressed, hn⟩ := callback_increments h
  rw [← hn, hsuppressed]
  unfold labelled
  simp only [List.countP_replicate]
  constructor
  · intro hlabels
    have hle := hlabels camera
    rwa [hcamera, Except.toOption, if_pos (decide_eq_true rfl)] at hle
  · intro hle label
    split_ifs
    · exact hle
    · exact Nat.zero_le 1

/-- Once at most, and behind the receipt: at every moment. -/
lemma sublist_of_prefix {camera : Json} {rest u : AlertTrace} {n : ℕ}
    (ht : t = ⟨.alertsTotal camera, ()⟩ :: rest)
    (hsuppressed : suppressedIncrements t = List.replicate n camera) (hn : n ≤ 1) (hu : u <+: t) :
    (suppressedIncrements u).Sublist (totalIncrements u) := by
  cases u with
  | nil => exact List.Sublist.refl _
  | cons c u =>
    have hsub : (suppressedIncrements (c :: u)).Sublist [camera] := by
      have hall : (suppressedIncrements (c :: u)).Sublist (List.replicate n camera) := by
        rw [← hsuppressed]
        exact hu.sublist.filterMap _
      exact hall.trans (List.replicate_sublist_replicate camera |>.mpr hn)
    rw [ht, List.cons_prefix_cons] at hu
    obtain ⟨rfl, -⟩ := hu
    have htotal : totalIncrements (⟨.alertsTotal camera, ()⟩ :: u) = camera :: totalIncrements u := rfl
    rw [htotal]
    exact hsub.trans (List.singleton_sublist.mpr List.mem_cons_self)

end Callback

/-! ### Runs -/

section Runs

variable {env : AlertEnv} {labels : List ServiceLabel} {s s' : AlertService} {label : ServiceLabel}

/-- No alert is delivered in both of its windows. -/
def OneWindowStep (env : AlertEnv) (s : AlertService) (label : ServiceLabel) (s' : AlertService) :
    Prop :=
  ServiceStep env s label s' ∧
    ∀ body now calls, label = .delivered body now calls → ¬ InBothWindows env now s.state body

lemma oneWindow_deliver {env : AlertEnv} {s : AlertService} {body : List UInt8} {now : WallTime}
    {calls : AlertTrace} {state : AlertState} (hrunning : s.running = true)
    (hexec : Exec (env.callback body now) s.state calls (.ok ()) state)
    (hnot : ¬ InBothWindows env now s.state body) :
    OneWindowStep env s (.delivered body now calls)
      ⟨state, true, s.senders ++ (startedAlerts calls).map (Sender.start env now)⟩ := by
  refine ⟨.deliver hrunning hexec, ?_⟩
  intro body' now' calls' heq
  obtain ⟨rfl, rfl, -⟩ := ServiceLabel.delivered.inj heq
  exact hnot

abbrev OneWindowRun (env : AlertEnv) := Transition.Run (OneWindowStep env) AlertService.start

lemma callbackCalls_snoc (labels : List ServiceLabel) (label : ServiceLabel) :
    callbackCalls (labels ++ [label]) = callbackCalls labels ++ callbackCalls [label] :=
  List.flatMap_append

lemma callbackCalls_delivered (body : List UInt8) (now : WallTime) (calls : AlertTrace) :
    callbackCalls [.delivered body now calls] = calls :=
  List.append_nil calls

lemma returned_of_isOk {result : Except Exn Unit} (h : result.isOk = true) : result = .ok () := by
  cases result with
  | ok u => rfl
  | error e => cases h

lemma running_of_step (h : ServiceStep env s label s') (hrunning : s'.running = true) :
    s.running = true := by
  cases h with
  | deliver hstart => exact hstart
  | reply => exact hrunning

lemma prefix_append_cases {α : Type*} {t u v : List α} (h : t <+: u ++ v) :
    t <+: u ∨ ∃ w, t = u ++ w ∧ w <+: v := by
  rcases List.prefix_or_prefix_of_prefix h (List.prefix_append u v) with ht | ⟨w, rfl⟩
  · exact Or.inl ht
  · exact Or.inr ⟨w, rfl, (List.prefix_append_right_inj u).mp h⟩

/-- What a run of the service keeps: every suppression belongs to an alert received before it. -/
def SuppressedReceived (labels : List ServiceLabel) : Prop :=
  ∀ t, t <+: callbackCalls labels → (suppressedIncrements t).Sublist (totalIncrements t)

lemma suppressedReceived_snoc (hlabels : SuppressedReceived labels)
    (hlast : ∀ u, u <+: callbackCalls [label] → (suppressedIncrements u).Sublist (totalIncrements u)) :
    SuppressedReceived (labels ++ [label]) := by
  intro t ht
  rw [callbackCalls_snoc] at ht
  rcases prefix_append_cases ht with ht | ⟨u, rfl, hu⟩
  · exact hlabels t ht
  · rw [suppressedIncrements_append, totalIncrements_append]
    exact (hlabels _ List.prefix_rfl).append (hlast u hu)

lemma oneWindow_step {past : List ServiceLabel} (hpast : SuppressedReceived past)
    (h : OneWindowStep env s label s') (hrunning : s'.running = true) :
    SuppressedReceived (past ++ [label]) ∧
      ∀ body now calls, label = .delivered body now calls → ∀ camera,
        labelled env camera (suppressedIncrements calls) ≤ 1 := by
  obtain ⟨hstep, hwindow⟩ := h
  cases hstep with
  | @deliver body now calls result state _ hexec =>
    obtain rfl : result = .ok () := returned_of_isOk hrunning
    have honce := hwindow body now calls rfl
    obtain ⟨alert, camera, rest, n, -, -, hcalls, hsuppressed, hn⟩ := callback_increments hexec
    constructor
    · apply suppressedReceived_snoc hpast
      intro u hu
      rw [callbackCalls_delivered] at hu
      exact sublist_of_prefix hcalls hsuppressed (hn.mpr honce) hu
    · intro body' now' calls' heq
      obtain ⟨-, -, rfl⟩ := ServiceLabel.delivered.inj heq
      exact (labelled_le_one_iff hexec).mpr honce
  | @reply i sender op answer k =>
    constructor
    · apply suppressedReceived_snoc hpast
      intro u hu
      obtain rfl := List.prefix_nil.mp hu
      exact List.Sublist.refl _
    · intro body now calls heq
      cases heq

/-- The counts add up in a run without an alert in both windows. -/
lemma oneWindow_run (h : OneWindowRun env labels s) (hrunning : s.running = true) :
    SuppressedReceived labels ∧ ∀ body now calls, .delivered body now calls ∈ labels → ∀ camera,
      labelled env camera (suppressedIncrements calls) ≤ 1 := by
  induction h with
  | nil =>
    refine ⟨fun t ht => ?_, fun body now calls hmem => ?_⟩
    · obtain rfl := List.prefix_nil.mp ht
      exact List.Sublist.refl _
    · cases hmem
  | @snoc past s label s' _ hstep ih =>
    obtain ⟨hpast, honce⟩ := ih (running_of_step hstep.1 hrunning)
    obtain ⟨hreceived, hlast⟩ := oneWindow_step hpast hstep hrunning
    refine ⟨hreceived, fun body now calls hmem => ?_⟩
    rcases List.mem_append.mp hmem with hmem | hmem
    · exact honce body now calls hmem
    · exact hlast body now calls (List.mem_singleton.mp hmem).symm

lemma SuppressionAddsUp.past {past : List ServiceLabel} (h : SuppressionAddsUp env (past ++ [label])) :
    SuppressionAddsUp env past := by
  constructor
  · intro t ht
    apply h.bounded
    rw [callbackCalls_snoc]
    exact ht.trans (List.prefix_append _ _)
  · intro body now calls hmem
    exact h.once body now calls (List.mem_append_left _ hmem)

/-- In a run whose callbacks all return, the counts of the suppressed alerts add up if and only if no
alert is delivered in both of its windows. -/
theorem suppression_adds_up_iff (h : ServiceRun env labels s) (hrunning : s.running = true) :
    SuppressionAddsUp env labels ↔ OneWindowRun env labels s := by
  constructor
  · intro hadds
    induction h with
    | nil => exact .nil
    | @snoc past s label s' _ hstep ih =>
      refine (ih (running_of_step hstep hrunning) hadds.past).snoc ⟨hstep, ?_⟩
      rintro body now calls rfl
      cases hstep with
      | @deliver _ _ _ result state _ hexec =>
        obtain rfl : result = .ok () := returned_of_isOk hrunning
        apply (labelled_le_one_iff hexec).mp
        exact hadds.once body now calls (List.mem_append_right _ (List.mem_singleton_self _))
  · intro hone
    obtain ⟨hreceived, honce⟩ := oneWindow_run hone hrunning
    exact ⟨fun t ht label => (hreceived t ht).countP_le, honce⟩

end Runs

/-! ### One camera three times -/

section OneCamera

/-- The tables after the photo and the call of 200 s. -/
def bothStamped : AlertState := ⟨atSecond 200, firstStamps⟩

lemma firstStamps_lastCamNtfy : bothStamped.lastCamNtfy (.num 1) = atSecond 200 := by
  unfold AlertState.lastCamNtfy bothStamped firstStamps
  dsimp only
  rw [Function.update_self, Option.getD_some]

/-- An alert of camera 1 in both windows. -/
lemma doubled_delivery (now : WallTime)
    (hntfy : now.cooledDown callEnv.ntfyCooldown (atSecond 200) = false)
    (hcall : now.cooledDown callEnv.alertCooldown (atSecond 200) = false) : ∃ calls,
    Exec (callEnv.callback (cameraBody 49) now) bothStamped calls (.ok ()) bothStamped ∧
      totalIncrements calls = [firstAlert.cameraId] ∧
      suppressedIncrements calls = [firstAlert.cameraId, firstAlert.cameraId] := by
  obtain ⟨left, hleft⟩ := @remaining_isOk callEnv.ntfyCooldown
    (fitsFloat_small 60 (by norm_num [maxStrDigits])) now (atSecond 200)
  obtain ⟨left', hleft'⟩ := @remaining_isOk callEnv.alertCooldown
    (fitsFloat_small 90 (by norm_num [maxStrDigits])) now (atSecond 200)
  rw [← firstStamps_lastCamNtfy] at hntfy hleft
  have hkey : firstAlert.cameraId.toKey = .ok (.num 1) := rfl
  exact ⟨_, callback_acked firstAlert_opened (.suppressed hkey hntfy hleft)
    (.suppressed rfl hcall hleft'), rfl, rfl⟩

/-- Three alerts of camera 1, the last two in both windows. -/
lemma doubled_run : ∃ labels s, ServiceRun callEnv labels s ∧ s.running = true ∧
    totalIncrements (callbackCalls labels) = List.replicate 3 firstAlert.cameraId ∧
    suppressedIncrements (callbackCalls labels) = List.replicate 4 firstAlert.cameraId := by
  obtain ⟨calls, hsecond, htotal, hsuppressed⟩ :=
    doubled_delivery (atSecond 210) (by decide +kernel) (by decide +kernel)
  obtain ⟨calls', hthird, htotal', hsuppressed'⟩ :=
    doubled_delivery (atSecond 220) (by decide +kernel) (by decide +kernel)
  have hrun := Transition.Run.single (ServiceStep.deliver (s := AlertService.start) rfl firstDelivery)
  have hrun' := hrun.snoc (show ServiceStep callEnv _ (.delivered (cameraBody 49) (atSecond 210) calls) _
    from .deliver rfl hsecond)
  have hrun'' := hrun'.snoc (show ServiceStep callEnv _
    (.delivered (cameraBody 49) (atSecond 220) calls') _ from .deliver rfl hthird)
  refine ⟨_, _, hrun'', rfl, ?_, ?_⟩
  · simp only [callbackCalls_snoc, callbackCalls_delivered, totalIncrements_append, htotal, htotal']
    rfl
  · simp only [callbackCalls_snoc, callbackCalls_delivered, suppressedIncrements_append, hsuppressed,
      hsuppressed']
    rfl

/-- Three alerts are received, and four are suppressed. -/
theorem doubled_exceeds : ¬ ∀ (labels : List ServiceLabel) (s : AlertService),
    ServiceRun callEnv labels s → s.running = true → SuppressionAddsUp callEnv labels := by
  intro hall
  obtain ⟨labels, s, hrun, hrunning, htotal, hsuppressed⟩ := doubled_run
  have hle := (hall labels s hrun hrunning).bounded _ List.prefix_rfl (lit "1")
  have hlabel : (callEnv.text firstAlert.cameraId).toOption = some (lit "1") := rfl
  rw [htotal, hsuppressed, labelled, labelled, List.countP_replicate, List.countP_replicate, hlabel,
    if_pos (decide_eq_true rfl), if_pos (decide_eq_true rfl)] at hle
  norm_num at hle

/-- The alert of camera 1 is in no window, and that of camera 2 in the window of the call only, so that
one suppressed alert is counted. -/
theorem suppression_adds_up_iff_bothCameras : ∃ calls,
    SuppressionAddsUp callEnv (bothCameras firstCalls calls) ∧
      secondAlert.cameraId ∈ suppressedIncrements calls := by
  obtain ⟨calls, -, hsuppressed, hsecond⟩ := secondDelivery
  have hfirst : ¬ InBothWindows callEnv (atSecond 200) AlertState.start (cameraBody 49) := by
    rintro ⟨-, -, -, -, hcool⟩
    have hcooled : (atSecond 200).cooledDown callEnv.alertCooldown .zero = true := by decide +kernel
    cases hcooled.symm.trans hcool
  have hphoto : ¬ InBothWindows callEnv (atSecond 210) bothStamped (cameraBody 50) := by
    rintro ⟨alert, hparse, ⟨key, hkey, hcool⟩, -⟩
    obtain rfl := Except.ok.inj (secondAlert_opened.parsed.symm.trans hparse)
    obtain rfl : Key.num 2 = key := Except.ok.inj hkey
    have hcooled : (atSecond 210).cooledDown callEnv.ntfyCooldown .zero = true := by decide +kernel
    cases hcooled.symm.trans hcool
  have hstep := oneWindow_deliver (s := AlertService.start) rfl firstDelivery hfirst
  have hstep' := fun senders =>
    oneWindow_deliver (s := ⟨bothStamped, true, senders⟩) rfl hsecond hphoto
  have hone : OneWindowRun callEnv (bothCameras firstCalls calls) _ :=
    (Transition.Run.single hstep).snoc (hstep' _)
  have hrun : ServiceRun callEnv (bothCameras firstCalls calls) _ :=
    (Transition.Run.single hstep.1).snoc (hstep' _).1
  refine ⟨calls, (suppression_adds_up_iff hrun rfl).mpr hone, ?_⟩
  exact List.mem_filterMap.mpr ⟨_, hsuppressed, rfl⟩

end OneCamera

end IntruderWatch.Proofs
