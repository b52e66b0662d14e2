import IntruderWatch.Library.Cooldown
import IntruderWatch.Proofs.AlertCooldown

/-!
# Photo alerts are a greedy selection per camera

The callback compares floats, but for receive times above the cooldown the comparison is exact:
either the later time is at most twice the earlier one and the difference is a float, or both sides
are clear of the cooldown. Hence the photo alerts of every camera are the greedy selection on its
own receive times, whatever the other cameras do.
-/

namespace IntruderWatch.Proofs
open Py Interaction

/-! ### The comparison -/

/-- The reading in seconds. -/
def timeOf (t : WallTime) : ℚ :=
  Binary64.signed t.neg t.seconds

lemma timeOf_le (t : WallTime) : timeOf t ≤ 2 ^ 34 := by
  have habs := (le_abs_self (timeOf t)).trans_eq (Binary64.abs_signed t.neg t.seconds)
  exact habs.trans t.bound

lemma neg_timeOf_le (t : WallTime) : -timeOf t ≤ 2 ^ 34 := by
  have habs := (neg_le_abs (timeOf t)).trans_eq (Binary64.abs_signed t.neg t.seconds)
  exact habs.trans t.bound

lemma isMagnitude_timeOf {t : WallTime} (h : 0 < timeOf t) : IsMagnitude (timeOf t) := by
  have hval : timeOf t = t.seconds.val := by
    rw [← abs_of_pos h]
    exact Binary64.abs_signed t.neg t.seconds
  rw [hval]
  exact t.seconds.2

lemma elapsed_rounded {now last : WallTime} (h : timeOf last ≤ timeOf now) : ∃ neg m,
    now.elapsed last = .finite neg m ∧
      Binary64.signed neg m = roundedMagnitude (timeOf now - timeOf last) := by
  apply Binary64.sub_of_le h
  have hnow := timeOf_le now
  have hlast := neg_timeOf_le last
  apply lt_of_le_of_lt _ two_pow_lt_threshold
  change timeOf now - timeOf last ≤ 2 ^ 35
  linarith

/-- After a time above the cooldown the float comparison is exact. -/
lemma cooledDown_iff {cooldown : Integer} {now last : WallTime}
    (hcooldown : (cooldown.val : ℚ) < timeOf last) (hle : timeOf last ≤ timeOf now) :
    now.cooledDown cooldown last = true ↔ (cooldown.val : ℚ) < timeOf now - timeOf last := by
  obtain ⟨neg, m, hel, hval⟩ := elapsed_rounded hle
  have hcooled : now.cooledDown cooldown last = true ↔
      (cooldown.val : ℚ) < roundedMagnitude (timeOf now - timeOf last) := by
    unfold WallTime.cooledDown
    rw [hel, ← hval]
    simp [Binary64.gtInt]
  rw [hcooled]
  have hzero : IsMagnitude 0 := isMagnitude_natCast (n := 0) (by norm_num)
  rcases lt_or_ge (cooldown.val : ℚ) 0 with hneg | hnonneg
  · -- a negative cooldown has passed at once
    have hdiff : 0 ≤ timeOf now - timeOf last := sub_nonneg.mpr hle
    exact iff_of_true (hneg.trans_le (le_roundedMagnitude hzero hdiff)) (hneg.trans_le hdiff)
  · have hpos : 0 < timeOf last := hnonneg.trans_lt hcooldown
    have hlast := isMagnitude_timeOf hpos
    rcases le_or_gt (timeOf now) (2 * timeOf last) with hnear | hfar
    · have hexact := (isMagnitude_timeOf (hpos.trans_le hle)).sub hlast hle hnear
      rw [roundedMagnitude_self hexact]
    · have hdiff : timeOf last ≤ timeOf now - timeOf last := by linarith
      exact iff_of_true (hcooldown.trans_le (le_roundedMagnitude hlast hdiff))
        (hcooldown.trans_le hdiff)

/-- Against the initial stamp a time above the cooldown fires. -/
lemma cooledDown_zero {cooldown : Integer} {now : WallTime}
    (h : (cooldown.val : ℚ) < timeOf now) : now.cooledDown cooldown .zero = true := by
  have hlt : now.seconds.val < overflowThreshold :=
    now.bound.trans_lt ((pow_lt_pow_right₀ (by norm_num) (by norm_num)).trans two_pow_lt_threshold)
  obtain ⟨neg, m, hel, hval⟩ := Binary64.sub_of_zero (s := now.neg) (t := false) hlt
    (show WallTime.zero.seconds.val = 0 from Nat.cast_zero)
  have hel' : now.elapsed .zero = .finite neg m := hel
  have hval' : Binary64.signed neg m = timeOf now := hval
  unfold WallTime.cooledDown
  rw [hel']
  simpa [Binary64.gtInt, hval'] using h

/-! ### One delivery -/

/-- The dictionary key of the camera in the body. -/
def cameraKey (env : AlertEnv) (body : List UInt8) : Option Key :=
  match env.parseAlert body with
  | .ok alert => alert.cameraId.toKey.toOption
  | .error _ => none

/-- The callback gets past its log line, and the camera is a dictionary key. -/
def WellFormed (env : AlertEnv) (body : List UInt8) : Prop :=
  ∃ alert camera timestamp key, Opened env body alert camera timestamp ∧
    alert.cameraId.toKey = .ok key

def dispatchesPhoto (calls : AlertTrace) : Bool :=
  !(startedAlerts calls).isEmpty

section Callback

variable {env : AlertEnv} {body : List UInt8} {now : WallTime} {s s' : AlertState}
  {t : AlertTrace} {r : Except Exn Unit}

lemma cameraKey_eq {alert : Alert} {key : Key} (hparse : env.parseAlert body = .ok alert)
    (hkey : alert.cameraId.toKey = .ok key) : cameraKey env body = some key := by
  unfold cameraKey
  rw [hparse]
  dsimp only
  rw [hkey]
  rfl

/-- The photo part decides by the stamp of the camera, and stamps it if it dispatches. -/
lemma ntfy_photo {alert : Alert} {key : Key} (hkey : alert.cameraId.toKey = .ok key)
    (h : NtfyRuns env alert now s t r s') :
    dispatchesPhoto t = now.cooledDown env.ntfyCooldown (s.lastCamNtfy key) ∧
      s'.lastNtfyTimes = if now.cooledDown env.ntfyCooldown (s.lastCamNtfy key) then
        Function.update s.lastNtfyTimes key (some now) else s.lastNtfyTimes := by
  cases h with
  | unhashable hkey' => cases hkey.symm.trans hkey'
  | @dispatched key' hkey' hcool =>
    obtain rfl := Except.ok.inj (hkey.symm.trans hkey')
    rw [hcool]
    exact ⟨rfl, rfl⟩
  | @overflow key' e hkey' hcool =>
    obtain rfl := Except.ok.inj (hkey.symm.trans hkey')
    rw [hcool]
    exact ⟨rfl, rfl⟩
  | @suppressed key' remaining hkey' hcool =>
    obtain rfl := Except.ok.inj (hkey.symm.trans hkey')
    rw [hcool]
    exact ⟨rfl, rfl⟩

lemma callback_photo {alert : Alert} {camera timestamp : Str} {key : Key}
    (hopen : Opened env body alert camera timestamp) (hkey : alert.cameraId.toKey = .ok key)
    (h : Exec (env.callback body now) s t r s') :
    dispatchesPhoto t = now.cooledDown env.ntfyCooldown (s.lastCamNtfy key) ∧
      s'.lastNtfyTimes = if now.cooledDown env.ntfyCooldown (s.lastCamNtfy key) then
        Function.update s.lastNtfyTimes key (some now) else s.lastNtfyTimes := by
  rcases callback_ntfy h with ⟨hnot, -⟩ |
    ⟨alert', camera', timestamp', t₁, r₁, s₁, hopen', hntfy, hstarted, -, hstamps⟩
  · exact (hnot alert camera timestamp hopen).elim
  · obtain rfl := Except.ok.inj (hopen.parsed.symm.trans hopen'.parsed)
    unfold dispatchesPhoto
    rw [hstarted, hstamps]
    exact ntfy_photo hkey hntfy

end Callback

/-! ### Whole runs -/

/-- The deliveries with the camera, the receive time and a flag read off the calls. -/
def deliveries (env : AlertEnv) (flag : AlertTrace → Bool) (labels : List ServiceLabel) :
    List ((Key × ℚ) × Bool) :=
  labels.filterMap (fun label => match label with
    | .delivered body now calls =>
      (cameraKey env body).map (fun key => ((key, timeOf now), flag calls))
    | .replied _ _ => none)

/-- The alerts of one camera: receive time, and whether the photo was dispatched. -/
def photoStream (env : AlertEnv) (key : Key) (labels : List ServiceLabel) : List (ℚ × Bool) :=
  Cooldown.streamOf key (deliveries env dispatchesPhoto labels)

section Runs

variable {env : AlertEnv} {flag : AlertTrace → Bool} {labels : List ServiceLabel}
  {label : ServiceLabel} {s s' : AlertService}

lemma deliveries_snoc : deliveries env flag (labels ++ [label]) =
    deliveries env flag labels ++ deliveries env flag [label] :=
  List.filterMap_append

lemma deliveries_replied {i : ℕ} {call : (op : SendCall) × SendAns op} :
    deliveries env flag (labels ++ [.replied i call]) = deliveries env flag labels := by
  rw [deliveries_snoc]
  exact List.append_nil _

/-- The times of the deliveries are receive times. -/
lemma deliveries_times : (((deliveries env flag labels).map Prod.fst).map Prod.snd).Sublist
    (receiveTimes labels) := by
  induction labels with
  | nil => exact List.Sublist.refl []
  | cons label labels ih =>
    unfold deliveries receiveTimes at ih ⊢
    cases label with
    | replied i call => exact ih
    | delivered body now calls =>
      rw [List.filterMap_cons, List.filterMap_cons]
      dsimp only
      cases cameraKey env body with
      | none => exact ih.cons _
      | some key => exact ih.cons_cons _

lemma mem_receiveTimes {key : Key} {t : ℚ}
    (ht : t ∈ Cooldown.own key ((deliveries env flag labels).map Prod.fst)) :
    t ∈ receiveTimes labels :=
  deliveries_times.subset ((List.filter_sublist.map Prod.snd).subset ht)

/-- All deliveries are well-formed alerts, received in order and after the cooldown. -/
structure Schedule (env : AlertEnv) (cooldown : Integer) (labels : List ServiceLabel) : Prop where
  wellFormed : ∀ body now calls, .delivered body now calls ∈ labels → WellFormed env body
  ordered : (receiveTimes labels).Pairwise (· ≤ ·)
  late : ∀ t ∈ receiveTimes labels, (cooldown.val : ℚ) < t

lemma receiveTimes_snoc : receiveTimes (labels ++ [label]) =
    receiveTimes labels ++ receiveTimes [label] :=
  List.filterMap_append

lemma Schedule.init {cooldown : Integer} (h : Schedule env cooldown (labels ++ [label])) :
    Schedule env cooldown labels := by
  obtain ⟨hwell, hordered, hlate⟩ := h
  rw [receiveTimes_snoc] at hordered hlate
  constructor
  · intro body now calls hmem
    exact hwell body now calls (List.mem_append_left _ hmem)
  · exact (List.pairwise_append.mp hordered).1
  · intro t ht
    exact hlate t (List.mem_append_left _ ht)

/-- A time that follows the receive times so far, all of them above the cooldown. -/
structure Arrives (cooldown : Integer) (labels : List ServiceLabel) (now : WallTime) : Prop where
  after : ∀ t ∈ receiveTimes labels, t ≤ timeOf now
  late : ∀ t ∈ receiveTimes labels, (cooldown.val : ℚ) < t
  above : (cooldown.val : ℚ) < timeOf now

lemma Schedule.arrives {cooldown : Integer} {body : List UInt8} {now : WallTime} {calls : AlertTrace}
    (h : Schedule env cooldown (labels ++ [.delivered body now calls])) :
    Arrives cooldown labels now := by
  have hordered := h.ordered
  rw [receiveTimes_snoc, List.pairwise_append] at hordered
  constructor
  · intro t ht
    exact hordered.2.2 t ht (timeOf now) (List.mem_singleton_self _)
  · exact h.init.late
  · apply h.late
    rw [receiveTimes_snoc]
    exact List.mem_append_right _ (List.mem_singleton_self _)

lemma Arrives.cooledDown {cooldown : Integer} {now last : WallTime} (h : Arrives cooldown labels now)
    (hlast : timeOf last ∈ receiveTimes labels) :
    now.cooledDown cooldown last = true ↔ (cooldown.val : ℚ) < timeOf now - timeOf last :=
  cooledDown_iff (h.late _ hlast) (h.after _ hlast)

/-- The flags so far are selected with a cooldown for each camera, and the stamps are the times of
the last dispatched alerts. -/
structure PhotoInv (env : AlertEnv) (labels : List ServiceLabel) (s : AlertService) : Prop where
  keyed : Cooldown.Keyed (env.ntfyCooldown.val : ℚ) (deliveries env dispatchesPhoto labels)
  stamps : ∀ key, (s.state.lastNtfyTimes key).map timeOf = Cooldown.lastFired
    (env.ntfyCooldown.val : ℚ) (Cooldown.own key ((deliveries env dispatchesPhoto labels).map Prod.fst))

/-- The float comparison of the callback is the selection rule. -/
lemma PhotoInv.cooledDown {key : Key} {now : WallTime} (hs : PhotoInv env labels s)
    (harrives : Arrives env.ntfyCooldown labels now) :
    now.cooledDown env.ntfyCooldown (s.state.lastCamNtfy key) = Cooldown.fires
      (env.ntfyCooldown.val : ℚ) ((s.state.lastNtfyTimes key).map timeOf) (timeOf now) := by
  unfold AlertState.lastCamNtfy
  cases hstamp : s.state.lastNtfyTimes key with
  | none => exact cooledDown_zero harrives.above
  | some last =>
    have hlast := hs.stamps key
    rw [hstamp] at hlast
    have hmem := mem_receiveTimes (Cooldown.lastFired_mem hlast.symm)
    rw [Bool.eq_iff_iff, Option.map_some, Cooldown.fires_some]
    exact harrives.cooledDown hmem

lemma PhotoInv.delivered {body : List UInt8} {now : WallTime} {calls : AlertTrace}
    {result : Except Exn Unit} {state : AlertState} (hs : PhotoInv env labels s)
    (hwell : WellFormed env body) (harrives : Arrives env.ntfyCooldown labels now)
    (hexec : Exec (env.callback body now) s.state calls result state)
    (hstate : s'.state = state) : PhotoInv env (labels ++ [.delivered body now calls]) s' := by
  obtain ⟨alert, camera, timestamp, key, hopen, hkey⟩ := hwell
  obtain ⟨hflag, hstamps⟩ := callback_photo hopen hkey hexec
  have hcool : now.cooledDown env.ntfyCooldown (s.state.lastCamNtfy key) = _ :=
    hs.cooledDown harrives
  have hentry : deliveries env dispatchesPhoto [.delivered body now calls] =
      [((key, timeOf now), dispatchesPhoto calls)] := by
    simp [deliveries, cameraKey_eq hopen.parsed hkey]
  constructor
  · unfold Cooldown.Keyed
    rw [deliveries_snoc, hentry, List.map_append, List.map_append, List.map_singleton,
      List.map_singleton, Cooldown.keyed_snoc, ← hs.keyed, ← hs.stamps key, ← hcool, hflag]
  · intro k
    rw [deliveries_snoc, hentry, List.map_append, List.map_singleton, Cooldown.own_snoc, hstate,
      hstamps]
    by_cases hk : key = k
    · subst hk
      rw [if_pos rfl, Cooldown.lastFired_snoc, ← hs.stamps key, Cooldown.next, ← hcool]
      split_ifs
      · rw [Function.update_self, Option.map_some]
      · rfl
    · rw [if_neg hk, List.append_nil, ← hs.stamps k]
      split_ifs
      · rw [Function.update_of_ne (Ne.symm hk)]
      · rfl

lemma photoInv_run (h : ServiceRun env labels s) (hschedule : Schedule env env.ntfyCooldown labels) :
    PhotoInv env labels s := by
  induction h with
  | nil => exact ⟨rfl, fun _ => rfl⟩
  | @snoc labels s label s' hrun hstep ih =>
    have hinv := ih hschedule.init
    cases hstep with
    | @reply i sender op answer k =>
      constructor
      · rw [deliveries_replied]
        exact hinv.keyed
      · rw [deliveries_replied]
        exact hinv.stamps
    | @deliver body now calls result state _ hexec =>
      have hwell := hschedule.wellFormed body now calls (by simp)
      exact hinv.delivered hwell hschedule.arrives hexec rfl

lemma photos_selected (h : ServiceRun env labels s)
    (hschedule : Schedule env env.ntfyCooldown labels) (key : Key) :
    Cooldown.Greedy (env.ntfyCooldown.val : ℚ) (photoStream env key labels) :=
  Cooldown.keyed_iff.mp (photoInv_run h hschedule).keyed key

/-- What the photo alerts of one camera are: the greedy selection on its own receive times. -/
structure PhotoLaw (cooldown : ℚ) (stream : List (ℚ × Bool)) : Prop where
  selected : stream.map Prod.snd = Cooldown.greedy cooldown none (stream.map Prod.fst)
  apart : ((stream.filter Prod.snd).map Prod.fst).Pairwise (fun l t => cooldown < t - l)
  covered : ∀ before t after, stream = before ++ (t, false) :: after →
    ∃ l, (l, true) ∈ before ∧ l ≤ t ∧ t - l ≤ cooldown

/-- For every interleaving of well-formed alerts the photo alerts of each camera are the greedy
selection on its own receive times, and hence the same in every run in which these are the same. -/
theorem photos_greedy (h : ServiceRun env labels s) (hschedule : Schedule env env.ntfyCooldown labels)
    (key : Key) : PhotoLaw env.ntfyCooldown.val (photoStream env key labels) ∧
      ∀ (labels' : List ServiceLabel) (s' : AlertService), ServiceRun env labels' s' →
        Schedule env env.ntfyCooldown labels' →
        (photoStream env key labels').map Prod.fst = (photoStream env key labels).map Prod.fst →
        photoStream env key labels' = photoStream env key labels := by
  have hselected := photos_selected h hschedule key
  have hsorted : ((photoStream env key labels).map Prod.fst).Pairwise (· ≤ ·) := by
    unfold photoStream
    rw [Cooldown.streamOf_times]
    exact Cooldown.own_sorted (hschedule.ordered.sublist deliveries_times) key
  refine ⟨⟨hselected, hselected.apart hsorted, ?_⟩, ?_⟩
  · intro before t after hsplit
    rw [hsplit] at hselected hsorted
    obtain ⟨l, hl, hle⟩ := hselected.covered
    refine ⟨l, hl, ?_, hle⟩
    rw [List.map_append, List.pairwise_append] at hsorted
    exact hsorted.2.2 l (List.mem_map_of_mem hl) t (by simp)
  · intro labels' s' h' hschedule' htimes
    have hflags : (photoStream env key labels').map Prod.snd =
        (photoStream env key labels).map Prod.snd := by
      have hselected' := photos_selected h' hschedule' key
      unfold Cooldown.Greedy at hselected hselected'
      rw [hselected', hselected, htimes]
    rw [List.zip_of_prod htimes hflags, ← List.zip_of_prod rfl rfl]

end Runs

/-! ### Two cameras -/

section TwoCameras

local instance neZero_thousand : NeZero 1000 := ⟨by norm_num⟩

def callEnv : AlertEnv := { defaultAlertEnv with enableCallAlerts := true }

/-- The body `{"camera":1}`, or another digit. -/
def cameraBody (digit : UInt8) : List UInt8 :=
  [123, 34, 99, 97, 109, 101, 114, 97, 34, 58, digit, 125]

lemma one_le_maxStrDigits : 1 ≤ maxStrDigits := by
  norm_num [maxStrDigits]

lemma two_le_maxStrDigits : 2 ≤ maxStrDigits := by
  norm_num [maxStrDigits]

def firstAlert : Alert :=
  { fallbackAlert with cameraId := .int (smallInteger 1 one_le_maxStrDigits) }

def secondAlert : Alert :=
  { fallbackAlert with cameraId := .int (smallInteger 2 two_le_maxStrDigits) }

lemma firstAlert_opened :
    Opened callEnv (cameraBody 49) firstAlert (lit "1") (lit "unknown") :=
  ⟨rfl, rfl, rfl⟩

lemma secondAlert_opened :
    Opened callEnv (cameraBody 50) secondAlert (lit "2") (lit "unknown") :=
  ⟨rfl, rfl, rfl⟩

/-- Camera 1 at 200 s, camera 2 at 210 s. -/
def bothCameras (calls calls' : AlertTrace) : List ServiceLabel :=
  [.delivered (cameraBody 49) (atSecond 200) calls, .delivered (cameraBody 50) (atSecond 210) calls']

lemma bothCameras_schedule {cooldown : Integer} (hcooldown : cooldown.val < 200)
    (calls calls' : AlertTrace) : Schedule callEnv cooldown (bothCameras calls calls') := by
  have htimes : receiveTimes (bothCameras calls calls') = [200, 210] := by
    have h200 : Binary64.signed false (atSecond 200).seconds = 200 := rfl
    have h210 : Binary64.signed false (atSecond 210).seconds = 210 := rfl
    exact congrArg₂ (fun q q' => [q, q']) h200 h210
  constructor
  · intro body now calls'' hmem
    simp only [bothCameras, List.mem_cons, List.not_mem_nil, or_false,
      ServiceLabel.delivered.injEq] at hmem
    rcases hmem with ⟨rfl, -, -⟩ | ⟨rfl, -, -⟩
    · exact ⟨_, _, _, .num 1, firstAlert_opened, rfl⟩
    · exact ⟨_, _, _, .num 2, secondAlert_opened, rfl⟩
  · rw [htimes]
    norm_num
  · have hcast : (cooldown.val : ℚ) < 200 := by exact_mod_cast hcooldown
    rw [htimes]
    intro t ht
    simp only [List.mem_cons, List.not_mem_nil, or_false] at ht
    rcases ht with rfl | rfl
    · exact hcast
    · linarith

/-- The stamps after the photo of camera 1. -/
def firstStamps : Key → Option WallTime :=
  Function.update (fun _ => none) (.num 1) (some (atSecond 200))

/-- The calls for camera 1: its photo and the call. -/
def firstCalls : AlertTrace :=
  opening firstAlert (lit "1") (lit "unknown") ++ [⟨.startNtfy firstAlert, ()⟩] ++
    [⟨.startCalls, ()⟩] ++ [⟨.basicAck, ()⟩]

lemma firstDelivery : Exec (callEnv.callback (cameraBody 49) (atSecond 200)) .start firstCalls
    (.ok ()) ⟨atSecond 200, firstStamps⟩ := by
  have hkey : firstAlert.cameraId.toKey = .ok (.num 1) := rfl
  have hntfy : NtfyRuns callEnv firstAlert (atSecond 200) .start [⟨.startNtfy firstAlert, ()⟩]
      (.ok ()) ⟨.zero, firstStamps⟩ := .dispatched hkey (by decide +kernel)
  have hcall : CallRuns callEnv firstAlert (atSecond 200) ⟨.zero, firstStamps⟩ [⟨.startCalls, ()⟩]
      (.ok ()) ⟨atSecond 200, firstStamps⟩ := .dispatched rfl (by decide +kernel)
  exact callback_acked firstAlert_opened hntfy hcall

/-- The photo of camera 2 goes out, and its call falls into the window of the call for camera 1. -/
lemma secondDelivery : ∃ calls, ⟨.startCalls, ()⟩ ∉ calls ∧
    ⟨.alertsSuppressed secondAlert.cameraId, ()⟩ ∈ calls ∧
    Exec (callEnv.callback (cameraBody 50) (atSecond 210)) ⟨atSecond 200, firstStamps⟩ calls (.ok ())
      ⟨atSecond 200, Function.update firstStamps (.num 2) (some (atSecond 210))⟩ := by
  have hkey : secondAlert.cameraId.toKey = .ok (.num 2) := rfl
  have hntfy : NtfyRuns callEnv secondAlert (atSecond 210) ⟨atSecond 200, firstStamps⟩
      [⟨.startNtfy secondAlert, ()⟩] (.ok ())
      ⟨atSecond 200, Function.update firstStamps (.num 2) (some (atSecond 210))⟩ :=
    .dispatched hkey (by decide +kernel)
  obtain ⟨remaining, hrem⟩ := @remaining_isOk callEnv.alertCooldown
    (fitsFloat_small 90 (by norm_num [maxStrDigits])) (atSecond 210) (atSecond 200)
  have hcall : CallRuns callEnv secondAlert (atSecond 210)
      ⟨atSecond 200, Function.update firstStamps (.num 2) (some (atSecond 210))⟩
      [⟨.logCallSuppressed remaining secondAlert.cameraId, ()⟩,
        ⟨.alertsSuppressed secondAlert.cameraId, ()⟩] (.ok ()) _ :=
    .suppressed rfl (by decide +kernel) hrem
  exact ⟨_, by simp [opening], by simp, callback_acked secondAlert_opened hntfy hcall⟩

lemma bothCameras_run : ∃ calls calls' s, ServiceRun callEnv (bothCameras calls calls') s ∧
    s.running = true ∧ ⟨.startCalls, ()⟩ ∈ calls ∧ ⟨.startCalls, ()⟩ ∉ calls' := by
  have hcalls : ⟨.startCalls, ()⟩ ∈ firstCalls := by simp [firstCalls]
  obtain ⟨calls', hcalls', -, hsecond⟩ := secondDelivery
  have hrun := Transition.Run.single (ServiceStep.deliver (s := AlertService.start) rfl firstDelivery)
  have hrun' := hrun.snoc (show ServiceStep callEnv _ (.delivered (cameraBody 50) (atSecond 210) calls') _
    from .deliver rfl hsecond)
  exact ⟨firstCalls, calls', _, hrun', rfl, hcalls, hcalls'⟩

/-- Both photos are dispatched, each by the stamps of its own camera. -/
theorem photos_greedy_bothCameras : ∃ calls calls' s,
    ServiceRun callEnv (bothCameras calls calls') s ∧
    PhotoLaw callEnv.ntfyCooldown.val (photoStream callEnv (.num 2) (bothCameras calls calls')) := by
  obtain ⟨calls, calls', s, hrun, -⟩ := bothCameras_run
  have hcooldown : callEnv.ntfyCooldown.val < 200 := by
    change (60 : ℤ) < 200
    norm_num
  obtain ⟨hlaw, -⟩ := photos_greedy hrun (bothCameras_schedule hcooldown calls calls') (.num 2)
  exact ⟨calls, calls', s, hrun, hlaw⟩

end TwoCameras

end IntruderWatch.Proofs
