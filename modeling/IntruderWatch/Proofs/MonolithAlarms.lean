import IntruderWatch.Monolith
import IntruderWatch.Proofs.PhotoSelection

/-!
# Alarms of the monolith

What every run of the monolith does is read off the calls that it has made: an alert is due exactly when
a person is seen and the latest alert is more than the cooldown ago, it calls every number, and each
picture of a person goes to the file of the latest alert. A call that raises is the end.
-/

namespace IntruderWatch.Monolith
open Py Interaction Watcher Proofs History

variable {Image Row : Type}

/-! ### What the calls tell -/

structure Sights (Image : Type) where
  cap : Option ℕ
  hour : Option ℕ
  frame : Option Image
  picture : Option Image
  clock : Option WallTime
  sightings : List WallTime
  alerts : List (WallTime × DateTime)
  called : List Str
  logged : WallTime
  early : Bool
  raised : Bool
  released : Bool

namespace Sights

def nothing : Sights Image := ⟨none, none, none, none, none, [], [], [], .zero, false, false, false⟩

variable (m : Sights Image)

/-- The time of the latest alert. -/
def lastAlert : WallTime := (m.alerts.getLast?.map Prod.fst).getD .zero

/-- An alert with the time on the clock begins. -/
def alertAt (stamp : DateTime) : Sights Image :=
  { m with alerts := m.alerts ++ [(m.clock.getD .zero, stamp)], called := [] }

/-- With a person in the picture the reading is the time of a sighting. -/
def readClock (env : MonolithEnv Image Row) (now : WallTime) : Sights Image :=
  { m with
    clock := some now
    sightings := if m.picture.isSome then m.sightings ++ [now] else m.sightings
    early := m.early || !now.cooledDown env.alertCooldown .zero }

/-- A frame has been through the network. -/
def judged (found : Bool × Image) : Sights Image :=
  { m with picture := if found.1 then some found.2 else none }

/-- `picture` is the frame at hand with its boxes, if it shows a person; `early` tells of a clock that
stands within the cooldown after the epoch. -/
def learn (env : MonolithEnv Image Row) :
    (op : MonolithCall Image) → MonolithReply Image Row op → Sights Image
  | .videoCapture, cap => { m with cap := some cap }
  | .now, t => { m with hour := some t.hour, frame := none, picture := none }
  | .read _, frame => { m with frame := frame }
  | .forward frame, detections => m.judged (env.detectHuman detections frame)
  | .time, t => m.readClock env t
  | .nowText, t => m.alertAt t
  | .callsCreate number, _ => { m with called := m.called ++ [number] }
  | .logWaiting, _ => { m with logged := m.clock.getD m.logged }
  | .release _, _ => { m with released := true }
  | _, _ => m

end Sights

/-- The file for the pictures of an alert. -/
def alertFile (env : MonolithEnv Image Row) (stamp : DateTime) : Str :=
  env.detectionFile (timestampText stamp) (pathJoin MonolithEnv.captures stamp.dateText)

/-- When a call is made, and with what. -/
def CallRule (env : MonolithEnv Image Row) (m : Sights Image) : MonolithCall Image → Prop
  | .read cap => m.cap = some cap ∧ ∃ hour, m.hour = some hour ∧ env.isActive hour = true
  | .forward frame => m.frame = some frame
  | .nowText => m.picture.isSome ∧
      ∃ now, m.clock = some now ∧ now.cooledDown env.alertCooldown m.lastAlert = true
  | .callsCreate number => ∃ rest, env.numbers = m.called ++ number :: rest
  | .imwrite filename picture => m.picture = some picture ∧ m.called = env.numbers ∧
      ∃ t stamp now, m.alerts.getLast? = some (t, stamp) ∧ filename = alertFile env stamp ∧
        m.clock = some now ∧ (now = t ∨ now.cooledDown env.alertCooldown t = false)
  | .logWaiting => (∃ hour, m.hour = some hour ∧ env.isActive hour = false) ∧
      ∃ now, m.clock = some now ∧ halfHour.gt (now.elapsed m.logged) = false
  | .sleep seconds => seconds = 1 ∧ m.frame = none ∨
      seconds = 60 ∧ ∃ hour, m.hour = some hour ∧ env.isActive hour = false
  | .release cap => m.cap = some cap
  | _ => True

/-- No call follows one that raised, but the release. -/
def InOrder (m : Sights Image) : MonolithCall Image → Prop
  | .release _ => (m.raised = true ∨ m.early = true) ∧ m.released = false
  | _ => m.raised = false ∧ m.released = false

def watcher (env : MonolithEnv Image Row) :
    Watcher (MonolithCall Image) (MonolithAns Image Row) (Sights Image) where
  see m c := match c with
    | ⟨op, .ok reply⟩ => m.learn env op reply
    | ⟨_, .error _⟩ => { m with raised := true }
  law m c := InOrder m c.1 ∧ CallRule env m c.1

/-! ### The variables of the loop -/

/-- The program is on its way, and the stream is the one opened last. -/
structure OnAir (m : Sights Image) (cap : ℕ) : Prop where
  raised : m.raised = false
  released : m.released = false
  cap : m.cap = some cap

/-- The times of the alerts. -/
def Sights.alertTimes (m : Sights Image) : List ℚ := m.alerts.map (fun alert => timeOf alert.1)

/-- The clock does not go back from one sighting to the next, and is past the cooldown. -/
structure Timely (env : MonolithEnv Image Row) (sightings : List WallTime) : Prop where
  sorted : (sightings.map timeOf).Pairwise (· ≤ ·)
  late : ∀ t ∈ sightings, (env.alertCooldown.val : ℚ) < timeOf t

/-- The alerts are the sightings that the cooldown selects. -/
def Selected (env : MonolithEnv Image Row) (m : Sights Image) : Prop :=
  Timely env m.sightings →
    m.alertTimes = Cooldown.fired (env.alertCooldown.val : ℚ) (m.sightings.map timeOf)

/-- The variables hold what the calls tell. -/
structure Agrees (env : MonolithEnv Image Row) (m : Sights Image) (s : MonolithState) : Prop extends
    OnAir m s.cap where
  lastAlertTime : s.lastAlertTime = m.lastAlert
  lastLogTime : s.lastLogTime = m.logged
  filename : s.filename = m.alerts.getLast?.map (fun alert => alertFile env alert.2)
  called : m.alerts ≠ [] → m.called = env.numbers
  selected : Selected env m

/-- After an exception. -/
structure Failed (m : Sights Image) (s : MonolithState) : Prop where
  cause : m.raised = true ∨ m.early = true
  released : m.released = false
  cap : m.cap = some s.cap

lemma OnAir.failed {m : Sights Image} {s : MonolithState} (h : OnAir m s.cap) :
    Failed { m with raised := true } s :=
  ⟨Or.inl rfl, h.released, h.cap⟩

/-! ### The selection -/

section Selection

variable {env : MonolithEnv Image Row} {m : Sights Image} {now : WallTime} {picture : Image}

lemma Timely.before {sightings : List WallTime} (h : Timely env (sightings ++ [now])) :
    Timely env sightings := by
  have hsorted := h.sorted
  rw [List.map_append] at hsorted
  exact ⟨(List.pairwise_append.mp hsorted).1, fun t ht => h.late t (List.mem_append_left _ ht)⟩

/-- The float comparison is the selection rule. -/
lemma Selected.fires (h : Selected env m) (htimely : Timely env (m.sightings ++ [now])) :
    Cooldown.fires (env.alertCooldown.val : ℚ)
        (Cooldown.lastFired (env.alertCooldown.val : ℚ) (m.sightings.map timeOf)) (timeOf now) =
      now.cooledDown env.alertCooldown m.lastAlert := by
  have hlate := htimely.late now (List.mem_append_right _ List.mem_cons_self)
  have hlast : Cooldown.lastFired (env.alertCooldown.val : ℚ) (m.sightings.map timeOf) =
      m.alerts.getLast?.map (fun alert => timeOf alert.1) := by
    rw [Cooldown.lastFired_eq, ← h htimely.before, Sights.alertTimes, List.getLast?_map]
  unfold Sights.lastAlert
  cases halert : m.alerts.getLast? with
  | none =>
    rw [hlast, halert]
    exact (cooledDown_zero hlate).symm
  | some alert =>
    rw [halert] at hlast
    obtain ⟨t, ht, heq⟩ := List.mem_map.mp (Cooldown.lastFired_mem hlast)
    have hsorted := htimely.sorted
    rw [List.map_append, List.pairwise_append] at hsorted
    have hle := hsorted.2.2 _ (List.mem_map_of_mem ht) (timeOf now) (List.mem_singleton_self _)
    have hpast := htimely.late t (List.mem_append_left _ ht)
    rw [heq] at hle hpast
    rw [hlast, Bool.eq_iff_iff]
    exact Cooldown.fires_some.trans (cooledDown_iff hpast hle).symm

/-- A sighting that is selected becomes an alert. -/
lemma Selected.alert (h : Selected env m)
    (hcool : now.cooledDown env.alertCooldown m.lastAlert = true) (stamp : DateTime) :
    Selected env (((m.judged (true, picture)).readClock env now).alertAt stamp) := by
  intro htimely
  change Timely env (m.sightings ++ [now]) at htimely
  change (m.alerts ++ [(now, stamp)]).map (fun alert => timeOf alert.1) =
    Cooldown.fired _ ((m.sightings ++ [now]).map timeOf)
  rw [List.map_append, List.map_append, List.map_singleton, List.map_singleton, Cooldown.fired_snoc,
    h.fires htimely, if_pos hcool, ← h htimely.before]
  rfl

lemma Selected.wait (h : Selected env m)
    (hcool : now.cooledDown env.alertCooldown m.lastAlert = false) :
    Selected env ((m.judged (true, picture)).readClock env now) := by
  intro htimely
  change Timely env (m.sightings ++ [now]) at htimely
  change m.alertTimes = Cooldown.fired _ ((m.sightings ++ [now]).map timeOf)
  rw [List.map_append, List.map_singleton, Cooldown.fired_snoc, h.fires htimely, hcool,
    ← h htimely.before]
  exact (List.append_nil _).symm

end Selection

/-! ### One alert -/

section Alert

variable {env : MonolithEnv Image Row} {m : Sights Image} {s : MonolithState}

/-- A call that the rules allow, with what it tells. -/
lemma pre_ask (op : MonolithCall Image) {Q : MonolithReply Image Row op → Sights Image → MonolithState → Prop}
    (hair : OnAir m s.cap) (horder : InOrder m op) (hrule : CallRule env m op)
    (hQ : ∀ reply, Q reply (m.learn env op reply) s) :
    (watcher env).pre (ask op : MonolithProc Image Row _) Q (fun _ => Failed) m s :=
  pre_request (fun _ => ⟨horder, hrule⟩) hQ (fun _ => hair.failed)

/-- Every number from `called` on. -/
lemma pre_callAll {numbers : List Str} (hair : OnAir m s.cap)
    (hnumbers : env.numbers = m.called ++ numbers) :
    (watcher env).pre (MonolithEnv.callAll numbers : MonolithProc Image Row Unit)
      (fun _ m' s' => m' = { m with called := env.numbers } ∧ s' = s) (fun _ => Failed) m s := by
  induction numbers generalizing m with
  | nil =>
    refine pre_pure ⟨?_, rfl⟩
    rw [hnumbers, List.append_nil]
  | cons number numbers ih =>
    have horder : m.raised = false ∧ m.released = false := ⟨hair.raised, hair.released⟩
    have hcalled : OnAir { m with called := m.called ++ [number] } s.cap :=
      ⟨hair.raised, hair.released, hair.cap⟩
    apply pre_bind
    apply pre_bind
    apply pre_ask .client hair horder trivial
    rintro ⟨⟩
    apply pre_ask (.callsCreate number) hair horder ⟨numbers, hnumbers⟩
    rintro ⟨⟩
    apply ih hcalled
    rw [hnumbers, List.append_assoc, List.singleton_append]

/-- The rest of an alert for which all numbers have been called. -/
lemma pre_nameFile {stamp : DateTime} {now : WallTime} (hair : OnAir m s.cap)
    (hlog : s.lastLogTime = m.logged) (halert : m.alerts.getLast? = some (now, stamp))
    (hcalled : m.called = env.numbers) (hselected : Selected env m) :
    (watcher env).pre (do
        modify (fun s => { s with lastAlertTime := now })
        let dateDirectory ← evaluate (MonolithEnv.dateDirectory (timestampText stamp))
        if !(← pathExists dateDirectory) then
          ask (.makedirs dateDirectory)
        modify (fun s =>
          { s with filename := some (env.detectionFile (timestampText stamp) dateDirectory) }) :
        MonolithProc Image Row Unit)
      (fun _ m' s' => m' = m ∧ Agrees env m s') (fun _ => Failed) m s := by
  have hdir : MonolithEnv.dateDirectory (timestampText stamp) =
      .ok (pathJoin MonolithEnv.captures stamp.dateText) := by
    rw [MonolithEnv.dateDirectory, timestampText, stamp.words_dateText]
    rfl
  have horder : m.raised = false ∧ m.released = false := ⟨hair.raised, hair.released⟩
  have hnamed : Agrees env m
      { s with lastAlertTime := now, filename := some (alertFile env stamp) } := by
    refine ⟨⟨hair.raised, hair.released, hair.cap⟩, ?_, hlog, ?_, fun _ => hcalled, hselected⟩
    · rw [Sights.lastAlert, halert]
      rfl
    · rw [halert]
      rfl
  rw [hdir]
  apply pre_modify_bind
  apply pre_evaluate_bind
  apply pre_bind
  refine pre_ask (.exists _) ⟨hair.raised, hair.released, hair.cap⟩ horder trivial ?_
  rintro (_ | _)
  · apply pre_bind
    refine pre_ask (.makedirs _) ⟨hair.raised, hair.released, hair.cap⟩ horder trivial ?_
    rintro ⟨⟩
    exact pre_modify ⟨rfl, hnamed⟩
  · exact pre_modify ⟨rfl, hnamed⟩

lemma pre_sendAlert {now : WallTime} (hair : OnAir m s.cap) (hlog : s.lastLogTime = m.logged)
    (hpicture : m.picture.isSome) (hclock : m.clock = some now)
    (hcool : now.cooledDown env.alertCooldown m.lastAlert = true)
    (hselected : ∀ stamp, Selected env (m.alertAt stamp)) :
    (watcher env).pre (env.sendAlert now)
      (fun _ m' s' => Agrees env m' s' ∧ m'.picture = m.picture ∧ m'.clock = m.clock ∧
        ∃ stamp, m'.alerts.getLast? = some (now, stamp)) (fun _ => Failed) m s := by
  have horder : m.raised = false ∧ m.released = false := ⟨hair.raised, hair.released⟩
  apply pre_bind
  refine pre_ask .nowText hair horder ⟨hpicture, now, hclock, hcool⟩ ?_
  rintro (stamp : DateTime)
  have hair' : OnAir (m.alertAt stamp) s.cap := ⟨hair.raised, hair.released, hair.cap⟩
  have halert : (m.alertAt stamp).alerts.getLast? = some (now, stamp) := by
    change (m.alerts ++ [(m.clock.getD .zero, stamp)]).getLast? = _
    rw [hclock]
    exact List.getLast?_concat
  apply pre_bind
  refine pre_mono ?_ (fun _ _ _ h => h) (pre_callAll hair' (List.nil_append _).symm)
  rintro ⟨⟩ m' s' ⟨rfl, rfl⟩
  have hair'' : OnAir { m.alertAt stamp with called := env.numbers } s'.cap :=
    ⟨hair.raised, hair.released, hair.cap⟩
  refine pre_mono ?_ (fun _ _ _ h => h) (pre_nameFile hair'' hlog halert rfl (hselected stamp))
  rintro ⟨⟩ m' s'' ⟨rfl, hagrees⟩
  exact ⟨hagrees, rfl, rfl, stamp, halert⟩

/-- Without an alert there is no file yet, and reading its name raises. -/
lemma pre_savePicture {picture : Image} {now : WallTime} (hagrees : Agrees env m s)
    (hpicture : m.picture = some picture) (hclock : m.clock = some now)
    (hearly : m.alerts = [] → m.early = true)
    (hcool : ∀ t stamp, m.alerts.getLast? = some (t, stamp) →
      now = t ∨ now.cooledDown env.alertCooldown t = false) :
    (watcher env).pre (MonolithEnv.savePicture picture : MonolithProc Image Row Unit)
      (fun _ => Agrees env) (fun _ => Failed) m s := by
  apply pre_get_bind
  cases halert : m.alerts.getLast? with
  | none =>
    rw [hagrees.filename, halert]
    exact pre_throw ⟨Or.inr (hearly (List.getLast?_eq_none_iff.mp halert)), hagrees.released, hagrees.cap⟩
  | some alert =>
    obtain ⟨t, stamp⟩ := alert
    have hcalled := hagrees.called (by
      intro hnil
      rw [hnil] at halert
      cases halert)
    rw [hagrees.filename, halert]
    apply pre_bind
    refine pre_ask (.imwrite _ _) hagrees.toOnAir ⟨hagrees.raised, hagrees.released⟩
      ⟨hpicture, hcalled, t, stamp, now, halert, rfl, hclock, hcool t stamp halert⟩ ?_
    intro written
    exact pre_pure hagrees

end Alert

/-! ### One frame -/

section Frame

variable {env : MonolithEnv Image Row} {m : Sights Image} {s : MonolithState}

lemma pre_watchFrame {frame : Image} (hagrees : Agrees env m s) (hframe : m.frame = some frame) :
    (watcher env).pre (env.watchFrame frame) (fun _ => Agrees env) (fun _ => Failed) m s := by
  have hair := hagrees.toOnAir
  apply pre_bind
  refine pre_ask (.forward frame) hair ⟨hair.raised, hair.released⟩ hframe ?_
  rintro (detections : List Row)
  apply pre_bind
  refine pre_ask .time ⟨hair.raised, hair.released, hair.cap⟩ ⟨hair.raised, hair.released⟩ trivial ?_
  rintro (now : WallTime)
  apply pre_get_bind
  generalize hfound : List.foldl _ (false, frame) detections = found
  obtain ⟨detected, picture⟩ := found
  have hsights : (m.learn env (.forward frame) detections).learn env .time now =
      (m.judged (detected, picture)).readClock env now := by
    have hdetected : env.detectHuman detections frame = (detected, picture) := hfound
    simp only [Sights.learn, hdetected]
  have hair' : OnAir ((m.judged (detected, picture)).readClock env now) s.cap :=
    ⟨hair.raised, hair.released, hair.cap⟩
  rw [hsights]
  cases detected with
  | false =>
    exact pre_pure ⟨hair', hagrees.lastAlertTime, hagrees.lastLogTime, hagrees.filename, hagrees.called,
      hagrees.selected⟩
  | true =>
    cases hcool : now.cooledDown env.alertCooldown s.lastAlertTime with
    | true =>
      rw [hagrees.lastAlertTime] at hcool
      apply pre_bind
      refine pre_mono ?_ (fun _ _ _ h => h)
        (pre_sendAlert hair' hagrees.lastLogTime rfl rfl hcool
          (fun stamp => hagrees.selected.alert hcool stamp))
      rintro ⟨⟩ m' s' ⟨hagrees, hpicture, hclock, stamp, halert⟩
      refine pre_savePicture hagrees hpicture hclock ?_ ?_
      · intro hnil
        rw [hnil] at halert
        cases halert
      · intro t stamp' halert'
        exact Or.inl (Prod.mk.inj (Option.some.inj (halert.symm.trans halert'))).1
    | false =>
      rw [hagrees.lastAlertTime] at hcool
      have hagrees' : Agrees env ((m.judged (true, picture)).readClock env now) s :=
        ⟨hair', hagrees.lastAlertTime, hagrees.lastLogTime, hagrees.filename, hagrees.called,
          hagrees.selected.wait hcool⟩
      refine pre_savePicture hagrees' rfl rfl ?_ ?_
      · intro hnil
        have hlast : m.lastAlert = .zero := by
          rw [Sights.lastAlert, show m.alerts = [] from hnil]
          rfl
        rw [hlast] at hcool
        simp [Sights.readClock, hcool]
      · intro t stamp halert
        have hlast : m.lastAlert = t := by
          rw [Sights.lastAlert, show m.alerts.getLast? = some (t, stamp) from halert]
          rfl
        exact Or.inr (hlast ▸ hcool)

lemma pre_reconnect (hagrees : Agrees env m s) (hframe : m.frame = none) :
    (watcher env).pre (MonolithEnv.reconnect : MonolithProc Image Row Unit)
      (fun _ => Agrees env) (fun _ => Failed) m s := by
  have hair := hagrees.toOnAir
  apply pre_bind
  refine pre_ask .videoCapture hair ⟨hair.raised, hair.released⟩ trivial ?_
  rintro (cap : ℕ)
  apply pre_modify_bind
  have hagrees' : Agrees env { m with cap := some cap } { s with cap := cap } :=
    ⟨⟨hair.raised, hair.released, rfl⟩, hagrees.lastAlertTime, hagrees.lastLogTime, hagrees.filename,
      hagrees.called, hagrees.selected⟩
  have hair' := hagrees'.toOnAir
  apply pre_bind
  refine pre_ask (.isOpened cap) hair' ⟨hair.raised, hair.released⟩ trivial ?_
  intro opened
  refine pre_ask (.sleep 1) hair' ⟨hair.raised, hair.released⟩ (Or.inl ⟨rfl, hframe⟩) ?_
  rintro ⟨⟩
  exact hagrees'

lemma pre_waitOutside {hour : ℕ} (hagrees : Agrees env m s) (hhour : m.hour = some hour)
    (hinactive : env.isActive hour = false) (hpicture : m.picture = none) :
    (watcher env).pre (MonolithEnv.waitOutside : MonolithProc Image Row Unit)
      (fun _ => Agrees env) (fun _ => Failed) m s := by
  have hair := hagrees.toOnAir
  apply pre_bind
  refine pre_ask .time hair ⟨hair.raised, hair.released⟩ trivial ?_
  rintro (now : WallTime)
  apply pre_get_bind
  have hsightings : (m.learn env .time now).sightings = m.sightings := by
    simp [Sights.learn, Sights.readClock, hpicture]
  have hselected : Selected env (m.learn env .time now) := by
    unfold Selected
    rw [hsightings]
    exact hagrees.selected
  have hagrees' : Agrees env (m.learn env .time now) s :=
    ⟨⟨hair.raised, hair.released, hair.cap⟩, hagrees.lastAlertTime, hagrees.lastLogTime,
      hagrees.filename, hagrees.called, hselected⟩
  have hair' := hagrees'.toOnAir
  cases hlog : halfHour.gt (now.elapsed s.lastLogTime) with
  | true =>
    refine pre_ask (.sleep 60) hair' ⟨hair.raised, hair.released⟩ (Or.inr ⟨rfl, hour, hhour, hinactive⟩) ?_
    rintro ⟨⟩
    exact hagrees'
  | false =>
    have hspaced : halfHour.gt (now.elapsed m.logged) = false := hagrees.lastLogTime ▸ hlog
    apply pre_bind
    refine pre_ask .logWaiting hair' ⟨hair.raised, hair.released⟩
      ⟨⟨hour, hhour, hinactive⟩, now, rfl, hspaced⟩ ?_
    rintro ⟨⟩
    apply pre_modify_bind
    have hagrees'' : Agrees env { m.learn env .time now with logged := now }
        { s with lastLogTime := now } :=
      ⟨⟨hair.raised, hair.released, hair.cap⟩, hagrees.lastAlertTime, rfl, hagrees.filename,
        hagrees.called, hselected⟩
    refine pre_ask (.sleep 60) hagrees''.toOnAir ⟨hair.raised, hair.released⟩
      (Or.inr ⟨rfl, hour, hhour, hinactive⟩) ?_
    rintro ⟨⟩
    exact hagrees''

lemma pre_iteration (hagrees : Agrees env m s) :
    (watcher env).pre env.iteration (fun _ => Agrees env) (fun _ => Failed) m s := by
  have hair := hagrees.toOnAir
  apply pre_bind
  refine pre_ask .now hair ⟨hair.raised, hair.released⟩ trivial ?_
  rintro (now : DateTime)
  have hagrees' : Agrees env (m.learn env .now now) s :=
    ⟨⟨hair.raised, hair.released, hair.cap⟩, hagrees.lastAlertTime, hagrees.lastLogTime,
      hagrees.filename, hagrees.called, hagrees.selected⟩
  have hair' := hagrees'.toOnAir
  by_cases hactive : env.isActive now.hour = true
  · rw [if_pos hactive]
    apply pre_get_bind
    apply pre_bind
    refine pre_ask (.read s.cap) hair' ⟨hair.raised, hair.released⟩ ⟨hair.cap, now.hour, rfl, hactive⟩ ?_
    rintro (_ | frame)
    · exact pre_reconnect ⟨⟨hair.raised, hair.released, hair.cap⟩, hagrees.lastAlertTime,
        hagrees.lastLogTime, hagrees.filename, hagrees.called, hagrees.selected⟩ rfl
    · exact pre_watchFrame ⟨⟨hair.raised, hair.released, hair.cap⟩, hagrees.lastAlertTime,
        hagrees.lastLogTime, hagrees.filename, hagrees.called, hagrees.selected⟩ rfl
  · rw [if_neg hactive]
    exact pre_waitOutside hagrees' rfl (by simpa using hactive) rfl

end Frame

/-! ### Before and after the loop -/

section Ends

variable {env : MonolithEnv Image Row}

lemma pre_openStream : (watcher env).pre MonolithEnv.openStream
    (fun cap m _ => Agrees env m (.start cap)) (fun _ _ _ => True) Sights.nothing () := by
  have horder : (Sights.nothing : Sights Image).raised = false ∧
      (Sights.nothing : Sights Image).released = false := ⟨rfl, rfl⟩
  have hopen : (watcher env).pre (do
      let cap ← videoCapture
      let _ ← ask (.isOpened cap)
      ask .loadModel
      pure cap : Proc Unit (MonolithCall Image) (MonolithAns Image Row) Exn ℕ)
      (fun cap m _ => Agrees env m (.start cap)) (fun _ _ _ => True) Sights.nothing () := by
    refine pre_request_bind (fun _ => ⟨horder, trivial⟩) ?_ (fun _ => trivial)
    rintro (cap : ℕ)
    refine pre_request_bind (fun _ => ⟨horder, trivial⟩) ?_ (fun _ => trivial)
    intro opened
    refine pre_request_bind (fun _ => ⟨horder, trivial⟩) ?_ (fun _ => trivial)
    rintro ⟨⟩
    refine pre_pure ⟨⟨rfl, rfl, rfl⟩, rfl, rfl, rfl, ?_, fun _ => rfl⟩
    intro halerts
    exact absurd rfl halerts
  refine pre_request_bind (fun _ => ⟨horder, trivial⟩) ?_ (fun _ => trivial)
  rintro (_ | _)
  · refine pre_request_bind (fun _ => ⟨horder, trivial⟩) ?_ (fun _ => trivial)
    rintro ⟨⟩
    exact hopen
  · exact hopen

lemma pre_closeStream {m : Sights Image} {s : MonolithState} {e : Exn} (h : Failed m s) :
    (watcher env).pre (MonolithEnv.closeStream e) (fun _ _ _ => True) (fun _ _ _ => True) m s := by
  have hrelease : ∀ Q : Unit → Sights Image → MonolithState → Prop,
      (∀ m, Q () m s) → (watcher env).pre (do
        ask (.release (← get).cap) : MonolithProc Image Row Unit) Q (fun _ _ _ => True) m s := by
    intro Q hQ
    apply pre_get_bind
    exact pre_request (fun _ => ⟨⟨h.cause, h.released⟩, h.cap⟩) (fun _ => hQ _) (fun _ => trivial)
  apply pre_withFinally
  by_cases hinterrupt : e = keyboardInterrupt
  · rw [if_pos hinterrupt]
    exact pre_pure (hrelease _ (fun _ => trivial))
  · rw [if_neg hinterrupt]
    exact pre_throw (hrelease _ (fun _ => trivial))

end Ends

/-! ### Runs -/

section Runs

variable {env : MonolithEnv Image Row} {labels : List (MonolithTrace Image Row)} {p p' : Phase}

/-- What the calls of a run tell. -/
def sights (env : MonolithEnv Image Row) (calls : MonolithTrace Image Row) : Sights Image :=
  (watcher env).memory .nothing calls

def PhaseInv (env : MonolithEnv Image Row) (m : Sights Image) : Phase → Prop
  | .starting => m = .nothing
  | .watching s => Agrees env m s
  | .ended _ => True

lemma run_watched (h : MonolithRun env labels p) :
    (watcher env).Lawful .nothing labels.flatten ∧ PhaseInv env (sights env labels.flatten) p := by
  induction h with
  | nil => exact ⟨lawful_nil, rfl⟩
  | @snoc labels p calls p' _ hstep ih =>
    obtain ⟨hlaw, hinv⟩ := ih
    rw [List.flatten_concat, sights, memory_append, lawful_append_iff]
    change PhaseInv env ((watcher env).memory .nothing labels.flatten) p at hinv
    cases hstep with
    | opened hexec =>
      have hnothing : (watcher env).memory .nothing labels.flatten = .nothing := hinv
      rw [hnothing]
      obtain ⟨hcalls, hagrees⟩ := pre_openStream _ _ _ hexec
      exact ⟨⟨hlaw, hcalls⟩, hagrees⟩
    | refused hexec =>
      have hnothing : (watcher env).memory .nothing labels.flatten = .nothing := hinv
      rw [hnothing]
      exact ⟨⟨hlaw, (pre_openStream _ _ _ hexec).1⟩, trivial⟩
    | looped hexec =>
      obtain ⟨hcalls, hagrees⟩ := pre_iteration hinv _ _ _ hexec
      exact ⟨⟨hlaw, hcalls⟩, hagrees⟩
    | stopped hexec hclose =>
      obtain ⟨hcalls, hfailed⟩ := pre_iteration hinv _ _ _ hexec
      obtain ⟨hclosing, -⟩ := pre_closeStream hfailed _ _ _ hclose
      exact ⟨⟨hlaw, lawful_append_iff.mpr ⟨hcalls, hclosing⟩⟩, trivial⟩

/-- What a call has to do with the calls before it. -/
def AlarmLaw (env : MonolithEnv Image Row) (past : MonolithTrace Image Row)
    (c : MonolithEvent Image Row) : Prop :=
  InOrder (sights env past) c.1 ∧ CallRule env (sights env past) c.1

end Runs

/-! ### Two sightings -/

section Sample

def soloEnv : MonolithEnv Unit Unit where
  channel := smallInteger 1 one_le_maxStrDigits
  alertCooldown := defaultAlertEnv.alertCooldown
  startTime := 22
  endTime := 6
  toPhoneNumbers := lit "110:112"
  confident := fun _ => true
  classId := fun _ => 15
  rectangle := fun frame _ => frame

def nightfall : DateTime := ⟨2026, 10, 3, 23, 0, 0, 0, by decide⟩

def firstReading : WallTime := atSecond ⟨200, by decide⟩

def secondReading : WallTime := atSecond ⟨210, by decide⟩

def openCalls : MonolithTrace Unit Unit :=
  [⟨.exists MonolithEnv.captures, .ok true⟩, ⟨.videoCapture, .ok (0 : ℕ)⟩, ⟨.isOpened 0, .ok true⟩,
    ⟨.loadModel, .ok ()⟩]

def sightingCalls (reading : WallTime) : MonolithTrace Unit Unit :=
  [⟨.now, .ok nightfall⟩, ⟨.read 0, .ok (some ())⟩, ⟨.forward (), .ok [()]⟩, ⟨.time, .ok reading⟩]

def alertCalls : MonolithTrace Unit Unit :=
  [⟨.nowText, .ok nightfall⟩, ⟨.client, .ok ()⟩, ⟨.callsCreate (lit "110"), .ok ()⟩, ⟨.client, .ok ()⟩,
    ⟨.callsCreate (lit "112"), .ok ()⟩,
    ⟨.exists (pathJoin MonolithEnv.captures nightfall.dateText), .ok true⟩]

def saveCalls : MonolithTrace Unit Unit := [⟨.imwrite (alertFile soloEnv nightfall) (), .ok true⟩]

/-- The second sighting comes ten seconds after the first, whose alert it joins. -/
def twoSightings : List (MonolithTrace Unit Unit) :=
  [openCalls, sightingCalls firstReading ++ (alertCalls ++ saveCalls),
    sightingCalls secondReading ++ saveCalls]

def afterAlert : MonolithState := ⟨0, firstReading, .zero, some (alertFile soloEnv nightfall)⟩

lemma firstReading_val : timeOf firstReading = 200 := rfl

lemma secondReading_val : timeOf secondReading = 210 := rfl

lemma soloEnv_cooldown : (soloEnv.alertCooldown.val : ℚ) = 90 := rfl

lemma firstReading_fires : firstReading.cooledDown soloEnv.alertCooldown .zero = true := by
  apply cooledDown_zero
  rw [soloEnv_cooldown, firstReading_val]
  norm_num

lemma secondReading_waits :
    secondReading.cooledDown soloEnv.alertCooldown firstReading = false := by
  have hiff := @cooledDown_iff soloEnv.alertCooldown secondReading firstReading
    (by rw [soloEnv_cooldown, firstReading_val]; norm_num)
    (by rw [firstReading_val, secondReading_val]; norm_num)
  rw [← Bool.not_eq_true, hiff, soloEnv_cooldown, firstReading_val, secondReading_val]
  norm_num

lemma twoSightings_run : MonolithRun soloEnv twoSightings (.watching afterAlert) := by
  have hopen : Exec (MonolithEnv.openStream : Proc Unit (MonolithCall Unit) (MonolithAns Unit Unit) Exn ℕ)
      () openCalls (.ok 0) () :=
    .call (.call (.call (.call (.ret _))))
  have hsave : Exec (MonolithEnv.savePicture () : MonolithProc Unit Unit Unit) afterAlert saveCalls
      (.ok ()) afterAlert :=
    .call (.ret _)
  have halert : Exec (soloEnv.sendAlert firstReading : MonolithProc Unit Unit Unit) (.start 0) alertCalls
      (.ok ()) afterAlert :=
    .call (.call (.call (.call (.call (.call (.ret _))))))
  have hfirst : Exec (soloEnv.iteration : MonolithProc Unit Unit Unit) (.start 0)
      (sightingCalls firstReading ++ (alertCalls ++ saveCalls)) (.ok ()) afterAlert := by
    refine .call (.call (.call (.call ?_)))
    change Exec (if firstReading.cooledDown soloEnv.alertCooldown .zero = true then do
      soloEnv.sendAlert firstReading
      MonolithEnv.savePicture () else MonolithEnv.savePicture () : MonolithProc Unit Unit Unit)
      (.start 0) (alertCalls ++ saveCalls) (.ok ()) afterAlert
    rw [if_pos firstReading_fires]
    exact exec_bind.mpr (Or.inr ⟨_, _, _, _, rfl, halert, hsave⟩)
  have hsecond : Exec (soloEnv.iteration : MonolithProc Unit Unit Unit) afterAlert
      (sightingCalls secondReading ++ saveCalls) (.ok ()) afterAlert := by
    refine .call (.call (.call (.call ?_)))
    change Exec (if secondReading.cooledDown soloEnv.alertCooldown firstReading = true then do
      soloEnv.sendAlert secondReading
      MonolithEnv.savePicture () else MonolithEnv.savePicture () : MonolithProc Unit Unit Unit)
      afterAlert saveCalls (.ok ()) afterAlert
    rw [secondReading_waits]
    exact hsave
  have hopened := Transition.Run.single (show MonolithStep soloEnv .starting _ _ from .opened hopen)
  exact (hopened.snoc (.looped hfirst)).snoc (.looped hsecond)

lemma twoSightings_timely : Timely soloEnv (sights soloEnv twoSightings.flatten).sightings := by
  have hsightings : (sights soloEnv twoSightings.flatten).sightings = [firstReading, secondReading] :=
    rfl
  constructor
  · rw [hsightings, List.map_cons, List.map_singleton, firstReading_val, secondReading_val]
    norm_num
  · rw [hsightings, soloEnv_cooldown]
    intro t ht
    simp only [List.mem_cons, List.not_mem_nil, or_false] at ht
    rcases ht with rfl | rfl
    · rw [firstReading_val]
      norm_num
    · rw [secondReading_val]
      norm_num

end Sample

end IntruderWatch.Monolith
