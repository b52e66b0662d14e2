import IntruderWatch.Proofs.AlertSurvival
import IntruderWatch.Proofs.PhotoSelection

/-!
# Voice calls share one cooldown

The callback keeps a single stamp for the voice calls of all cameras, so the calls are the greedy
selection on the merged stream. Every camera gets the calls it would get alone exactly if the
alerts selected for the single cameras keep more than the cooldown from each other.
-/

namespace IntruderWatch.Proofs
open Py Interaction

def startsCalls (calls : AlertTrace) : Bool :=
  calls.any (fun call => match call.1 with
    | .startCalls => true
    | _ => false)

/-- The alerts with camera and receive time. -/
def receivedAlerts (env : AlertEnv) (labels : List ServiceLabel) : List (Key × ℚ) :=
  labels.filterMap (fun label => match label with
    | .delivered body now _ => (cameraKey env body).map (fun key => (key, timeOf now))
    | .replied _ _ => none)

/-- The alerts of one camera: receive time, and whether the calls were started. -/
def callStream (env : AlertEnv) (key : Key) (labels : List ServiceLabel) : List (ℚ × Bool) :=
  Cooldown.streamOf key (deliveries env startsCalls labels)

section Callback

variable {env : AlertEnv} {body : List UInt8} {alert : Alert} {now : WallTime} {s s' : AlertState}
  {t t₁ t₂ : AlertTrace} {r : Except Exn Unit}

lemma startsCalls_append : startsCalls (t₁ ++ t₂) = (startsCalls t₁ || startsCalls t₂) :=
  List.any_append

lemma startsCalls_ntfy (h : NtfyRuns env alert now s t r s') : startsCalls t = false := by
  cases h <;> rfl

/-- With calls enabled the call part decides by the one stamp, and sets it if it calls. -/
lemma call_decision (hen : env.enableCallAlerts = true) (h : CallRuns env alert now s t r s') :
    startsCalls t = now.cooledDown env.alertCooldown s.lastCallTime ∧
      s'.lastCallTime = if now.cooledDown env.alertCooldown s.lastCallTime then now
        else s.lastCallTime := by
  cases h with
  | disabled hdis => cases hen.symm.trans hdis
  | dispatched _ hcool =>
    rw [hcool]
    exact ⟨rfl, rfl⟩
  | overflow _ hcool =>
    rw [hcool]
    exact ⟨rfl, rfl⟩
  | suppressed _ hcool =>
    rw [hcool]
    exact ⟨rfl, rfl⟩

/-- A callback that returns has a camera, and decided about the call. -/
lemma callback_call (hen : env.enableCallAlerts = true)
    (h : Exec (env.callback body now) s t (.ok ()) s') : (∃ key, cameraKey env body = some key) ∧
      startsCalls t = now.cooledDown env.alertCooldown s.lastCallTime ∧
      s'.lastCallTime = if now.cooledDown env.alertCooldown s.lastCallTime then now
        else s.lastCallTime := by
  generalize hr : Except.ok () = r at h
  cases exec_callback h with
  | unreadable | unprintable | ntfyRaised | callRaised => cases hr
  | @acked alert camera timestamp t₁ t₂ s₁ s₂ hopen hntfy hcall =>
    obtain ⟨hstarts, hstamp⟩ := call_decision hen hcall
    rw [lastCallTime_ntfy hntfy] at hstarts hstamp
    refine ⟨?_, ?_, hstamp⟩
    · obtain ⟨key, hkey, -⟩ := ntfy_isOk_iff.mp ⟨_, _, hntfy⟩
      exact ⟨key, cameraKey_eq hopen.parsed hkey⟩
    · have hopening : startsCalls (opening alert camera timestamp) = false := rfl
      have hack : startsCalls [⟨.basicAck, ()⟩] = false := rfl
      rw [startsCalls_append, startsCalls_append, startsCalls_append, hopening,
        startsCalls_ntfy hntfy, hack, Bool.false_or, Bool.false_or, Bool.or_false, hstarts]

end Callback

section Runs

variable {env : AlertEnv} {flag : AlertTrace → Bool} {labels : List ServiceLabel}
  {s : AlertService}

lemma deliveries_alerts : (deliveries env flag labels).map Prod.fst = receivedAlerts env labels := by
  unfold deliveries receivedAlerts
  rw [List.map_filterMap]
  congr 1
  funext label
  cases label with
  | replied => rfl
  | delivered body now calls => exact Option.map_map _ _ _

/-- The flags so far are selected with a single cooldown, and the stamp is the last call. -/
structure CallInv (env : AlertEnv) (labels : List ServiceLabel) (s : AlertService) : Prop where
  selected : (deliveries env startsCalls labels).map Prod.snd = Cooldown.greedy
    (env.alertCooldown.val : ℚ) none ((receivedAlerts env labels).map Prod.snd)
  stamp : Cooldown.lastFired (env.alertCooldown.val : ℚ) ((receivedAlerts env labels).map Prod.snd) =
      none ∧ s.state.lastCallTime = .zero ∨
    Cooldown.lastFired (env.alertCooldown.val : ℚ) ((receivedAlerts env labels).map Prod.snd) =
      some (timeOf s.state.lastCallTime)

lemma receivedAlerts_times : ((receivedAlerts env labels).map Prod.snd).Sublist
    (receiveTimes labels) := by
  rw [← @deliveries_alerts env startsCalls]
  exact deliveries_times

/-- The float comparison of the callback is the selection rule. -/
lemma CallInv.cooledDown {now : WallTime} (hs : CallInv env labels s)
    (harrives : Arrives env.alertCooldown labels now) :
    now.cooledDown env.alertCooldown s.state.lastCallTime = Cooldown.fires
      (env.alertCooldown.val : ℚ) (Cooldown.lastFired (env.alertCooldown.val : ℚ)
        ((receivedAlerts env labels).map Prod.snd)) (timeOf now) := by
  rcases hs.stamp with ⟨hnone, hzero⟩ | hlast
  · rw [hnone, hzero]
    exact cooledDown_zero harrives.above
  · have hmem := receivedAlerts_times.subset (Cooldown.lastFired_mem hlast)
    rw [hlast, Bool.eq_iff_iff, Cooldown.fires_some]
    exact harrives.cooledDown hmem

lemma receivedAlerts_snoc {label : ServiceLabel} : receivedAlerts env (labels ++ [label]) =
    receivedAlerts env labels ++ receivedAlerts env [label] :=
  List.filterMap_append

lemma CallInv.delivered {body : List UInt8} {now : WallTime} {calls : AlertTrace} {state : AlertState}
    {s' : AlertService} (hen : env.enableCallAlerts = true) (hs : CallInv env labels s)
    (harrives : Arrives env.alertCooldown labels now)
    (hexec : Exec (env.callback body now) s.state calls (.ok ()) state) (hstate : s'.state = state) :
    CallInv env (labels ++ [.delivered body now calls]) s' := by
  obtain ⟨⟨key, hkey⟩, hflag, hstamp⟩ := callback_call hen hexec
  have hcool := hs.cooledDown harrives
  have hdelivery : deliveries env startsCalls [.delivered body now calls] =
      [((key, timeOf now), startsCalls calls)] := by
    simp [deliveries, hkey]
  have halert : receivedAlerts env [.delivered body now calls] = [(key, timeOf now)] := by
    simp [receivedAlerts, hkey]
  constructor
  · rw [deliveries_snoc, hdelivery, receivedAlerts_snoc, halert, List.map_append, List.map_append,
      List.map_singleton, List.map_singleton, Cooldown.greedy_snoc, ← hs.selected, ← hcool, hflag]
  · rw [receivedAlerts_snoc, halert, List.map_append, List.map_singleton, Cooldown.lastFired_snoc,
      Cooldown.next, ← hcool, hstate, hstamp]
    split_ifs
    · exact Or.inr rfl
    · exact hs.stamp

lemma callInv_run (hen : env.enableCallAlerts = true) (h : ServiceRun env labels s)
    (hschedule : Schedule env env.alertCooldown labels) (hrunning : s.running = true) :
    CallInv env labels s := by
  induction h with
  | nil => exact ⟨rfl, Or.inl ⟨rfl, rfl⟩⟩
  | @snoc labels s label s' hrun hstep ih =>
    cases hstep with
    | @reply i sender op answer k =>
      have hinv := ih hschedule.init hrunning
      have hsame : receivedAlerts env (labels ++ [.replied i ⟨op, answer⟩]) =
          receivedAlerts env labels := by
        rw [receivedAlerts_snoc]
        exact List.append_nil _
      constructor
      · rw [deliveries_replied, hsame]
        exact hinv.selected
      · rw [hsame]
        exact hinv.stamp
    | @deliver body now calls result state hbefore hexec =>
      cases result with
      | error e => cases hrunning
      | ok =>
        have hinv := ih hschedule.init hbefore
        exact hinv.delivered hen hschedule.arrives hexec rfl

/-- With calls enabled, in every run of a live consumer each camera gets the calls that it would
get alone if and only if the alerts selected for the single cameras are more than `ALERT_COOLDOWN`
apart. -/
theorem calls_isolated_iff (hen : env.enableCallAlerts = true) (h : ServiceRun env labels s)
    (hschedule : Schedule env env.alertCooldown labels) (hrunning : s.running = true) :
    (∀ key, (callStream env key labels).map Prod.snd = Cooldown.greedy
        (env.alertCooldown.val : ℚ) none ((callStream env key labels).map Prod.fst)) ↔
      Cooldown.Separated (env.alertCooldown.val : ℚ) (receivedAlerts env labels) := by
  have hinv := callInv_run hen h hschedule hrunning
  have hsorted : ((receivedAlerts env labels).map Prod.snd).Pairwise (· ≤ ·) :=
    hschedule.ordered.sublist receivedAlerts_times
  rw [← @deliveries_alerts env startsCalls] at hsorted ⊢
  apply Cooldown.greedy_streams_iff hsorted
  rw [deliveries_alerts]
  exact hinv.selected

end Runs

/-! ### Two cameras within one cooldown -/

lemma startsCalls_iff {calls : AlertTrace} :
    startsCalls calls = true ↔ ⟨.startCalls, ()⟩ ∈ calls := by
  unfold startsCalls
  rw [List.any_eq_true]
  constructor
  · rintro ⟨⟨op, answer⟩, hmem, hop⟩
    cases op with
    | startCalls => exact hmem
    | _ => cases hop
  · intro hmem
    exact ⟨_, hmem, rfl⟩

lemma firstKey : cameraKey callEnv (cameraBody 49) = some (.num 1) :=
  cameraKey_eq firstAlert_opened.parsed rfl

lemma secondKey : cameraKey callEnv (cameraBody 50) = some (.num 2) :=
  cameraKey_eq secondAlert_opened.parsed rfl

lemma secondAlone : ∃ calls s,
    ServiceRun callEnv [.delivered (cameraBody 50) (atSecond 210) calls] s ∧ s.running = true ∧
      startsCalls calls = true := by
  have hkey : secondAlert.cameraId.toKey = .ok (.num 2) := rfl
  have hntfy : NtfyRuns callEnv secondAlert (atSecond 210) .start [⟨.startNtfy secondAlert, ()⟩]
      (.ok ()) ⟨.zero, Function.update (fun _ => none) (.num 2) (some (atSecond 210))⟩ :=
    .dispatched hkey (by decide +kernel)
  have hcall : CallRuns callEnv secondAlert (atSecond 210)
      ⟨.zero, Function.update (fun _ => none) (.num 2) (some (atSecond 210))⟩ [⟨.startCalls, ()⟩]
      (.ok ()) _ := .dispatched rfl (by decide +kernel)
  have hexec := callback_acked secondAlert_opened hntfy hcall
  have hrun := Transition.Run.single (ServiceStep.deliver (s := AlertService.start) rfl hexec)
  exact ⟨_, _, hrun, rfl, startsCalls_iff.mpr (by simp)⟩

lemma secondAlone_schedule {cooldown : Integer} (hcooldown : cooldown.val < 200) (calls : AlertTrace) :
    Schedule callEnv cooldown [.delivered (cameraBody 50) (atSecond 210) calls] := by
  have hboth := bothCameras_schedule hcooldown [] calls
  constructor
  · intro body now calls' hmem
    exact hboth.wellFormed body now calls' (List.mem_cons_of_mem _ hmem)
  · exact hboth.ordered.tail
  · intro t ht
    exact hboth.late t (List.mem_cons_of_mem _ ht)

lemma callStream_bothCameras (calls calls' : AlertTrace) :
    callStream callEnv (.num 2) (bothCameras calls calls') =
      [(timeOf (atSecond 210), startsCalls calls')] := by
  simp [callStream, Cooldown.streamOf, deliveries, bothCameras, firstKey, secondKey]

lemma callStream_secondAlone (calls : AlertTrace) :
    callStream callEnv (.num 2) [.delivered (cameraBody 50) (atSecond 210) calls] =
      [(timeOf (atSecond 210), startsCalls calls)] := by
  simp [callStream, Cooldown.streamOf, deliveries, secondKey]

lemma callCooldown_lt : callEnv.alertCooldown.val < 200 := by
  change (90 : ℤ) < 200
  norm_num

/-- The calls for the second camera depend on the alerts of the first. -/
theorem call_suppressed_by_other_camera : ¬ ∃ f : Key → List ℚ → List Bool,
    ∀ (labels : List ServiceLabel) (s : AlertService), ServiceRun callEnv labels s →
      Schedule callEnv callEnv.alertCooldown labels → s.running = true → ∀ key,
      (callStream callEnv key labels).map Prod.snd =
        f key ((callStream callEnv key labels).map Prod.fst) := by
  rintro ⟨f, hf⟩
  obtain ⟨calls, calls', s, hrun, hrunning, -, hquiet⟩ := bothCameras_run
  have hboth := hf _ s hrun (bothCameras_schedule callCooldown_lt calls calls') hrunning (.num 2)
  obtain ⟨callsAlone, s', hrun', hrunning', hcalled⟩ := secondAlone
  have halone := hf _ s' hrun' (secondAlone_schedule callCooldown_lt callsAlone) hrunning' (.num 2)
  have hnot : startsCalls calls' = false := by
    rw [← Bool.not_eq_true, startsCalls_iff]
    exact hquiet
  rw [callStream_bothCameras, hnot] at hboth
  rw [callStream_secondAlone, hcalled] at halone
  cases hboth.trans halone.symm

/-- The second camera alone would get its call, ten seconds after the first. -/
theorem calls_isolated_iff_bothCameras : ∃ calls calls' s,
    ServiceRun callEnv (bothCameras calls calls') s ∧
    ((∀ key, (callStream callEnv key (bothCameras calls calls')).map Prod.snd = Cooldown.greedy
        (callEnv.alertCooldown.val : ℚ) none
        ((callStream callEnv key (bothCameras calls calls')).map Prod.fst)) ↔
      Cooldown.Separated (callEnv.alertCooldown.val : ℚ)
        (receivedAlerts callEnv (bothCameras calls calls'))) := by
  obtain ⟨calls, calls', s, hrun, hrunning, -⟩ := bothCameras_run
  exact ⟨calls, calls', s, hrun, calls_isolated_iff rfl hrun
    (bothCameras_schedule callCooldown_lt calls calls') hrunning⟩

end IntruderWatch.Proofs
