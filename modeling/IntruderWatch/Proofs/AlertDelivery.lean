import IntruderWatch.Proofs.AlertLinks
import IntruderWatch.Proofs.AlertPublishing
import IntruderWatch.Proofs.AlertSurvival
import IntruderWatch.Proofs.PhotoAccounting

/-!
# From a frame to the phone

An alert that the detector raises for a frame of the capturer keeps the alert service running
whatever the state of its cooldowns, starts a photo exactly if its camera has cooled down, and the
photo is posted once, with a link that leads back to the file on disk.
-/

namespace IntruderWatch.Proofs
open Py Interaction

/-! ### Confidences -/

/-- A float between 0 and 1. -/
def IsProbability (x : Binary64) : Prop :=
  ∃ m : Magnitude, x = .finite false m ∧ m.val ≤ 1

section Confidences

variable {x : Binary64}

lemma one_lt_threshold : (1 : ℚ) < overflowThreshold :=
  lt_trans (by norm_num) hundred_lt_threshold

lemma IsProbability.round (h : IsProbability x) (digits : ℕ) : IsProbability (x.round digits) := by
  obtain ⟨m, rfl, hm⟩ := h
  have hpow : (0 : ℚ) < 10 ^ digits := by positivity
  have hnonneg := m.2.nonneg
  have hround : roundEven (m.val * 10 ^ digits) ≤ 10 ^ digits := by
    apply roundEven_le (mul_nonneg hnonneg hpow.le)
    push_cast
    exact mul_le_of_le_one_left hpow.le hm
  have hle : (roundEven (m.val * 10 ^ digits) : ℚ) / 10 ^ digits ≤ 1 := by
    rw [div_le_one hpow]
    exact_mod_cast hround
  have hquot : (0 : ℚ) ≤ (roundEven (m.val * 10 ^ digits) : ℚ) / 10 ^ digits := by positivity
  obtain ⟨p, hp⟩ := roundMagnitude_isSome hquot (hle.trans_lt one_lt_threshold)
  refine ⟨p, by rw [Binary64.round, Binary64.ofSigned, hp], ?_⟩
  obtain ⟨hrange, heq⟩ := Option.dite_none_right_eq_some.mp hp
  rw [← Option.some.inj heq]
  have hpowle := roundedMagnitude_le_pow (k := 0) hquot (by simpa using hle)
  simpa using hpowle

lemma IsProbability.maximum {xs : List Binary64} (h : IsProbability x)
    (hxs : ∀ y ∈ xs, IsProbability y) : IsProbability (Binary64.maximum x xs) := by
  unfold Binary64.maximum
  induction xs generalizing x with
  | nil => exact h
  | cons y xs ih =>
    rw [List.foldl_cons]
    apply ih _ (fun z hz => hxs z (List.mem_cons_of_mem _ hz))
    split_ifs
    · exact hxs y List.mem_cons_self
    · exact h

/-- The percentage in a message can be computed. -/
lemma confStr_isOk (h : IsProbability x) : ∃ conf, AlertEnv.confStr x = .ok conf ∧ AsciiText conf := by
  obtain ⟨m, rfl, hm⟩ := h
  have hle : m.val * ((100 : ℕ) : ℚ) ≤ 100 := by
    push_cast
    linarith
  obtain ⟨p, hp⟩ := roundMagnitude_isSome (mul_nonneg m.2.nonneg (by positivity))
    (hle.trans_lt hundred_lt_threshold)
  have hmul : (Binary64.finite false m).mul (.ofNat 100 DetectorEnv.hundred_lt_two_pow) =
      .finite false p := by
    simp only [Binary64.ofNat, Binary64.mul, Binary64.ofSigned, hp, bne_self_eq_false]
  unfold AlertEnv.confStr
  split_ifs
  · rw [hmul]
    refine ⟨_, rfl, ?_⟩
    exact ((asciiText_of_isAscii (by decide)).append (asciiText_decimal _)).append
      (asciiText_of_isAscii (by decide))
  · exact ⟨[], rfl, asciiText_of_isAscii (by decide)⟩

end Confidences

/-! ### What the detector submits -/

section Submitted

variable {Image : Type} {env : DetectorEnv Image}

/-- The confidence of a submitted alert is a probability. -/
def SubmitsProbability : DetectCall Image → Prop
  | .submit item => IsProbability item.payload.maxConfidence
  | _ => True

lemma submits_acknowledge : Uses SubmitsProbability (acknowledge : DetectProc Image Unit) :=
  Uses.perform_bind trivial (fun answer => Uses.evaluate answer)

lemma submits_onError (cameraId : Json) :
    Uses SubmitsProbability (DetectorEnv.onError cameraId : DetectProc Image Unit) :=
  Uses.perform_bind trivial (fun _ => Uses.perform_bind trivial (fun _ => Uses.pure ()))

lemma submits_raiseAlert (m : FrameLocals) (frame : Image) {boxes : Detections}
    (hboxes : ∀ b ∈ boxes.val, IsProbability b.conf) :
    Uses SubmitsProbability (env.raiseAlert m frame boxes) := by
  unfold DetectorEnv.raiseAlert
  split
  · exact Uses.pure ()
  · next b rest heq =>
    have hsubmit : Uses SubmitsProbability (do
        let timestamp := (← datetimeNow).text
        let filename ← evaluate (env.detectionFile m timestamp)
        submit ⟨frame, filename, DetectorEnv.alertPayload m timestamp filename boxes b rest⟩
        humansDetected m.cameraId boxes.val.length : DetectProc Image Unit) := by
      apply Uses.perform_bind trivial
      intro time
      apply Uses.evaluate_bind
      intro filename
      refine Uses.perform_bind ?_ (fun _ => Uses.perform trivial)
      apply IsProbability.maximum ((hboxes b (by rw [heq]; exact List.mem_cons_self)).round 4)
      intro y hy
      obtain ⟨c, hc, rfl⟩ := List.mem_map.mp hy
      exact (hboxes c (by rw [heq]; exact List.mem_cons_of_mem _ hc)).round 4
    split_ifs
    · exact (Uses.modify _).bind (fun _ => hsubmit)
    · exact hsubmit

lemma submits_detect (hconf : ConfidencesInRange env) (m : FrameLocals) :
    Uses SubmitsProbability (env.detect m) := by
  unfold DetectorEnv.detect
  apply Uses.evaluate_bind
  intro image
  apply Uses.evaluate_bind
  intro bytes
  apply Uses.evaluate_bind
  intro decoded
  cases decoded with
  | none => exact Uses.evaluate_bind (fun _ => Uses.perform_bind trivial (fun _ => submits_acknowledge))
  | some frame =>
    apply Uses.evaluate_bind_ok
    intro boxes hboxes
    apply Uses.evaluate_bind
    intro drawn
    apply (submits_raiseAlert m drawn (hconf frame boxes hboxes)).bind
    intro _
    exact Uses.perform_bind trivial (fun _ => submits_acknowledge)

lemma submits_countHeartbeat :
    Uses SubmitsProbability (DetectorEnv.countHeartbeat : DetectProc Image Unit) := by
  unfold DetectorEnv.countHeartbeat
  apply (Uses.modify _).bind
  intro _
  apply Uses.get.bind
  intro s
  split_ifs
  · exact Uses.perform trivial
  · exact Uses.pure ()

lemma submits_processFrame (hconf : ConfidencesInRange env) (m : FrameLocals) :
    Uses SubmitsProbability (env.processFrame m) := by
  unfold DetectorEnv.processFrame
  apply Uses.get.bind
  intro s
  split_ifs
  · exact (Uses.modify _).bind (fun _ => Uses.evaluate_bind (fun _ => submits_acknowledge))
  · apply submits_countHeartbeat.bind
    intro _
    apply Uses.evaluate_bind
    intro duplicate
    split_ifs
    · exact Uses.evaluate_bind (fun _ => Uses.evaluate_bind (fun _ => submits_acknowledge))
    · exact submits_detect hconf m

lemma submits_callback (hconf : ConfidencesInRange env) (body : List UInt8) :
    Uses SubmitsProbability (env.callback body) := by
  unfold DetectorEnv.callback
  split
  · exact submits_onError _
  · dsimp only
    split
    · exact submits_onError _
    · exact Uses.tryCatch (submits_processFrame hconf _) (fun _ => submits_onError _)

variable {run : List (FrameEvent Image)} {s : DetectorState} {e : FrameEvent Image}
  {item : AlertItem Image}

/-- An alert of a run is the one for its frame. -/
lemma run_isAlert (hlimit : 2 ≤ env.loadsLimit) (hconf : ConfidencesInRange env)
    (hrun : DetectorRun env run s) (he : e ∈ run) (hitem : item ∈ submittedItems e.calls) :
    IsAlert env e.frame item := by
  obtain ⟨k, hk, rfl⟩ := List.mem_iff_getElem.mp he
  rcases ((detectorRun_inv hlimit hconf hrun).1 k hk).alerts with hnone | ⟨item', hone, halert⟩
  · rw [hnone] at hitem
    cases hitem
  · rw [hone] at hitem
    rwa [List.mem_singleton.mp hitem]

lemma run_probability (hconf : ConfidencesInRange env) (hrun : DetectorRun env run s) (he : e ∈ run)
    (hitem : item ∈ submittedItems e.calls) : IsProbability item.payload.maxConfidence := by
  obtain ⟨before, after, rfl⟩ := List.append_of_mem he
  obtain ⟨s₁, -, hrest⟩ := Transition.Run.split hrun
  have hcall : ∃ s₂ r s₃, Exec (env.callback (marshal e.frame.payload)) s₂ e.calls r s₃ := by
    have hfirst : Transition.Run (DetectorStep env) s₁ ([e] ++ after) s := hrest
    obtain ⟨s₂, hone, -⟩ := Transition.Run.split hfirst
    obtain ⟨s₃, -, r, hexec⟩ := Transition.Run.snoc_iff.mp (show Transition.Run _ s₁ ([] ++ [e]) s₂ from hone)
    exact ⟨s₃, r, s₂, hexec⟩
  obtain ⟨s₂, r, s₃, hexec⟩ := hcall
  obtain ⟨call, hcall, hsubmitted⟩ := List.mem_filterMap.mp hitem
  have huses := (submits_callback hconf _).calls _ _ _ _ hexec call hcall
  obtain ⟨op, answer⟩ := call
  cases op with
  | submit item' =>
    obtain rfl := Option.some.inj hsubmitted
    exact huses
  | _ => cases hsubmitted

end Submitted

/-! ### The callback for a received alert -/

section Received

variable {env : AlertEnv} {body : List UInt8} {now : WallTime} {s s' : AlertState} {t : AlertTrace}
  {r : Except Exn Unit} {alert : Alert} {key : Key}

/-- The alert has been parsed, and neither its texts nor the cooldowns raise. -/
structure Healthy (env : AlertEnv) (body : List UInt8) (alert : Alert) (key : Key) : Prop where
  parsed : env.parseAlert body = .ok alert
  keyed : alert.cameraId.toKey = .ok key
  texts : ∃ camera timestamp, Opened env body alert camera timestamp
  ntfy : FitsFloat env.ntfyCooldown
  call : FitsFloat env.alertCooldown

lemma Healthy.ntfyRuns (h : Healthy env body alert key) (hntfy : NtfyRuns env alert now s t r s') :
    r = .ok () ∧ startedAlerts t =
      if now.cooledDown env.ntfyCooldown (s.lastCamNtfy key) then [alert] else [] := by
  cases hntfy with
  | unhashable hkey => cases h.keyed.symm.trans hkey
  | dispatched hkey hcool =>
    obtain rfl := Except.ok.inj (h.keyed.symm.trans hkey)
    exact ⟨rfl, by rw [hcool, if_pos rfl]; rfl⟩
  | @overflow key' e hkey hcool hrem =>
    obtain ⟨n, hn⟩ := remaining_isOk h.ntfy now (s.lastCamNtfy key')
    cases hn.symm.trans hrem
  | suppressed hkey hcool hrem =>
    obtain rfl := Except.ok.inj (h.keyed.symm.trans hkey)
    exact ⟨rfl, by rw [hcool, if_neg Bool.false_ne_true]; rfl⟩

lemma Healthy.callRuns (h : Healthy env body alert key) (hcall : CallRuns env alert now s t r s') :
    r = .ok () := by
  cases hcall with
  | disabled => rfl
  | dispatched => rfl
  | overflow _ _ hrem =>
    obtain ⟨n, hn⟩ := remaining_isOk h.call now s.lastCallTime
    cases hn.symm.trans hrem
  | suppressed => rfl

/-- The callback returns after one acknowledgement, and starts the photo if the camera has cooled
down. -/
lemma Healthy.callback (h : Healthy env body alert key) (hexec : Exec (env.callback body now) s t r s') :
    r = .ok () ∧ acks t = 1 ∧ startedAlerts t =
      if now.cooledDown env.ntfyCooldown (s.lastCamNtfy key) then [alert] else [] := by
  obtain ⟨camera, timestamp, hopened⟩ := h.texts
  cases exec_callback hexec with
  | unreadable hparse => cases h.parsed.symm.trans hparse
  | unprintable hparse hraise =>
    obtain rfl := Except.ok.inj (h.parsed.symm.trans hparse)
    rcases hraise with hraise | hraise
    · cases hopened.camera.symm.trans hraise
    · cases hopened.timestamp.symm.trans hraise
  | ntfyRaised hopen hntfy =>
    obtain rfl := Except.ok.inj (h.parsed.symm.trans hopen.parsed)
    cases (h.ntfyRuns hntfy).1
  | callRaised hopen _ hcall =>
    obtain rfl := Except.ok.inj (h.parsed.symm.trans hopen.parsed)
    cases h.callRuns hcall
  | @acked alert' camera' timestamp' t₁ t₂ s₁ s₂ hopen hntfy hcall =>
    obtain rfl := Except.ok.inj (h.parsed.symm.trans hopen.parsed)
    refine ⟨rfl, ?_, ?_⟩
    · rw [acks_append, acks_append, acks_append, acks_ntfy hntfy, acks_call hcall]
      rfl
    · have hopening : startedAlerts (opening alert camera' timestamp') = [] := rfl
      have hack : startedAlerts [⟨.basicAck, ()⟩] = [] := rfl
      rw [startedAlerts_append, startedAlerts_append, startedAlerts_append, hopening, hack,
        (call_reads hcall).1, (h.ntfyRuns hntfy).2, List.nil_append, List.append_nil, List.append_nil]

end Received

/-! ### The photo -/

section Photo

variable {env : AlertEnv} {alert : Alert} {clean : Json} {filename url title message tags : Str}
  {data : List UInt8} {t : SendTrace} {r : Except Exn Unit}

def photoHeaders (title tags url : Str) : List (Str × Str) :=
  [(lit "Title", title), (lit "Priority", lit "5"), (lit "Tags", tags), (lit "Attach", url)]

/-- The thread posts once, to the topic of the alerts. -/
def PostsPhoto (env : AlertEnv) (headers : List (Str × Str)) (data : List UInt8) (t : SendTrace) : Prop :=
  ∃ reply rest, t = ⟨.post (env.ntfyInternalUrl ++ lit "/intruder-alerts") data headers, reply⟩ :: rest ∧
    postReplies rest = []

/-- With the link and the texts at hand the photo is posted, whatever the answer. -/
lemma exec_postPhoto_posts (hfile : alert.filename = .str filename)
    (hurl : env.imageUrl filename = some url)
    (htext : env.ntfyText alert clean = .ok (title, message, tags)) (hdata : encode message = .ok data)
    (h : Exec (env.postPhoto alert clean) () t r ()) :
    PostsPhoto env (photoHeaders title tags url) data t := by
  unfold AlertEnv.postPhoto at h
  rw [hfile] at h
  rcases exec_evaluate_bind.mp h with ⟨e, he, -⟩ | ⟨name, hname, h⟩
  · cases he
  obtain rfl := Except.ok.inj hname
  rw [hurl] at h
  rcases exec_evaluate_bind.mp h with ⟨e, he, -⟩ | ⟨texts, htexts, h⟩
  · cases htext.symm.trans he
  obtain rfl := Except.ok.inj (htext.symm.trans htexts)
  rcases exec_evaluate_bind.mp h with ⟨e, he, -⟩ | ⟨bytes, hbytes, h⟩
  · cases hdata.symm.trans he
  obtain rfl := Except.ok.inj (hdata.symm.trans hbytes)
  obtain ⟨reply, t₁, rfl, hreplied⟩ := exec_perform_bind.mp h
  refine ⟨reply, t₁, rfl, ?_⟩
  rcases exec_evaluate_bind.mp hreplied with ⟨e, -, rfl, -, -⟩ | ⟨status, -, hreplied⟩
  · rfl
  rcases exec_evaluate_bind.mp hreplied with ⟨e, -, rfl, -, -⟩ | ⟨⟨⟩, -, hreplied⟩
  · rfl
  obtain ⟨⟨⟩, rfl, -, -⟩ := exec_perform.mp hreplied
  rfl

lemma exec_sendNtfyPhoto_posts (hclean : cleanTimestamp alert.timestamp = .ok clean)
    (hfile : alert.filename = .str filename) (hurl : env.imageUrl filename = some url)
    (htext : env.ntfyText alert clean = .ok (title, message, tags)) (hdata : encode message = .ok data)
    (h : Exec (env.sendNtfyPhoto alert) () t r ()) :
    PostsPhoto env (photoHeaders title tags url) data t := by
  unfold AlertEnv.sendNtfyPhoto at h
  rcases exec_evaluate_bind.mp h with ⟨e, he, -⟩ | ⟨clean', hclean', h⟩
  · cases hclean.symm.trans he
  obtain rfl := Except.ok.inj (hclean.symm.trans hclean')
  rcases exec_tryCatch.mp h with ⟨a, hpost, -⟩ | ⟨t₁, t₂, e, s₁, rfl, hpost, hcatch⟩
  · exact exec_postPhoto_posts hfile hurl htext hdata hpost
  · obtain ⟨reply, rest, rfl, hreplies⟩ := exec_postPhoto_posts hfile hurl htext hdata hpost
    obtain ⟨answer, rfl, -, -⟩ := exec_perform.mp hcatch
    refine ⟨reply, rest ++ [⟨.notificationErrors alert.cameraId e, answer⟩], rfl, ?_⟩
    unfold postReplies at hreplies ⊢
    rw [List.filterMap_append, hreplies]
    rfl

end Photo

/-! ### An alert of the detector -/

/-- The time up to the second, which stands in the message. -/
def secondText (time : DateTime) : Str :=
  time.dateText ++ ofChar ' ' :: padded 2 time.hour ++ ofChar ':' :: padded 2 time.minute ++
    ofChar ':' :: padded 2 time.second

lemma text_eq_secondText (time : DateTime) :
    time.text = secondText time ++ dot :: padded 6 time.microsecond := by
  simp [secondText, DateTime.text, DateTime.timeText, dot]

lemma nameText_secondText (time : DateTime) : NameText (secondText time) := by
  have hcolon : isNameChar (ofChar ':') = true := by decide
  have hspace : isNameChar (ofChar ' ') = true := by decide
  exact (((nameText_dateText time).append ((nameText_padded 2 _).cons hspace)).append
    ((nameText_padded 2 _).cons hcolon)).append ((nameText_padded 2 _).cons hcolon)

lemma NameText.ascii {s : Str} (h : NameText s) : AsciiText s :=
  fun c hc => (isNameChar_val (h c hc)).1

lemma asciiText_text (time : DateTime) : AsciiText time.text := by
  rw [text_eq_secondText]
  exact (nameText_secondText time).ascii.append
    (AsciiText.cons (by decide) (nameText_padded 6 _).ascii)

lemma cleanTimestamp_text (time : DateTime) :
    cleanTimestamp (.str time.text) = .ok (.str (secondText time)) := by
  have hdot : dot ∉ secondText time := (nameText_secondText time).period_notMem
  have hmem : time.text.contains dot = true := by
    rw [text_eq_secondText]
    simp
  rw [cleanTimestamp, if_pos hmem, text_eq_secondText, split_append hdot]
  rfl

section Delivery

variable {Image : Type} {denv : DetectorEnv Image} {aenv : AlertEnv} {viewer : ViewerConfig}
  {f : CapturedFrame} {item : AlertItem Image}

/-- The alert service and the viewer share the code for pictures, and the link starts with the
address of the viewer. -/
structure SharesCode (aenv : AlertEnv) (viewer : ViewerConfig) : Prop where
  address : ∃ authority, aenv.viewerPublicUrl = lit "https://" ++ authority ∧ slash ∉ authority ∧
    ofChar '?' ∉ authority ∧ ofChar '#' ∉ authority
  shared : viewer.alertBypassToken = some aenv.imageAccessCode
  secret : aenv.imageAccessCode ≠ []
  unreserved : ∀ c ∈ aenv.imageAccessCode, Uri.isUnreserved c = true

/-- The limits within which the alert service can take the messages of the detector. -/
structure Capable (aenv : AlertEnv) : Prop where
  loads : 4 ≤ aenv.loadsLimit
  ntfy : FitsFloat aenv.ntfyCooldown
  call : FitsFloat aenv.alertCooldown

lemma asciiText_detectionPath (hhost : ∀ c ∈ denv.instanceId, isHostChar c = true)
    (f : CapturedFrame) (time : DateTime) : AsciiText (detectionPath denv.instanceId f time) := by
  have hslash : slash.val < 128 := by decide
  have hsegment : ∀ {s : Str}, SegmentText s → AsciiText s := fun hs c hc => (hs.val hc).1
  rw [detectionPath_eq]
  simp only [componentText_cons]
  refine AsciiText.cons hslash (AsciiText.append (asciiText_of_isAscii (by decide)) ?_)
  refine AsciiText.cons hslash (AsciiText.append (asciiText_of_isAscii (by decide)) ?_)
  refine AsciiText.cons hslash (AsciiText.append (nameText_cameraFolder f).ascii ?_)
  refine AsciiText.cons hslash (AsciiText.append (nameText_dateText time).ascii ?_)
  exact AsciiText.cons hslash (AsciiText.append (hsegment (segmentText_imageName f time hhost))
    (asciiText_of_isAscii (by decide)))

/-- The texts of an alert of the detector can be sent. -/
lemma sendable_isAlert (hhost : ∀ c ∈ denv.instanceId, isHostChar c = true)
    (h : IsAlert denv f item) : SendableText item.payload := by
  obtain ⟨hcamera, time, htime, hfile, -⟩ := h
  refine ⟨?_, ?_, ?_⟩
  · rw [hcamera]
    trivial
  · rw [htime]
    exact AsciiText.noPairs (asciiText_text time)
  · rw [hfile]
    exact AsciiText.noPairs (asciiText_detectionPath hhost f time)

/-- The detector's message is one that the callback survives. -/
lemma healthy_isAlert (hcap : Capable aenv) {body : List UInt8} (halert : IsAlert denv f item)
    (hread : aenv.readAlert body = .ok (receivedAlert item.payload)) :
    Healthy aenv body (receivedAlert item.payload) (frameKey f.camera) := by
  have hparse : aenv.parseAlert body = .ok (receivedAlert item.payload) := by
    rw [AlertEnv.parseAlert, hread]
  have hkey : item.payload.camera.toKey = .ok (frameKey f.camera) := by
    rw [halert.1]
    rfl
  obtain ⟨camera, hcamera⟩ : ∃ text, aenv.text item.payload.camera = .ok text := by
    rw [text_isOk_iff, Json.depth_of_key hkey]
    exact Nat.zero_le _
  exact ⟨hparse, hkey, ⟨camera, item.payload.timestamp, hparse, hcamera, rfl⟩, hcap.ntfy, hcap.call⟩

/-- Title, message and tags of an alert of the detector, with a message that can be encoded. -/
lemma ntfyText_isAlert {time : DateTime} (hcamera : item.payload.camera = .int (goInteger f.camera))
    (hprob : IsProbability item.payload.maxConfidence) : ∃ title message tags data,
    aenv.ntfyText (receivedAlert item.payload) (.str (secondText time)) =
      .ok (title, message, tags) ∧ encode message = .ok data := by
  obtain ⟨conf, hconf, hascii⟩ := confStr_isOk hprob
  have hcameraText : aenv.text item.payload.camera = .ok (decimal f.camera.val) := by
    rw [hcamera]
    simp [AlertEnv.text, Json.toStr, Json.depth, Json.repr, goInteger]
  have htime : aenv.text (.str (secondText time)) = .ok (secondText time) := rfl
  have hencode : ∀ {start : Str}, AsciiText start →
      ∃ data, encode (start ++ conf ++ lit " at " ++ secondText time) = .ok data := by
    intro start hstart
    have hall := ((hstart.append hascii).append (asciiText_of_isAscii (s := lit " at ") (by decide))).append
      (nameText_secondText time).ascii
    exact encode_isOk (fun c hc => isSurrogate_of_ascii (hall c hc))
  unfold AlertEnv.ntfyText
  simp only [receivedAlert, hconf, hcameraText, htime, bind, Except.bind]
  by_cases hmany : 1 < item.payload.humanCount.val
  · obtain ⟨data, hdata⟩ := hencode ((asciiText_decimal item.payload.humanCount.val).append
      (asciiText_of_isAscii (s := lit " persons detected") (by decide)))
    exact ⟨_, _, _, data, if_pos hmany, hdata⟩
  · obtain ⟨data, hdata⟩ := hencode (asciiText_of_isAscii (s := lit "Person detected") (by decide))
    exact ⟨_, _, _, data, if_neg hmany, hdata⟩

/-- What becomes of an alert for a frame, once it has been published. -/
structure AlertArrives (aenv : AlertEnv) (viewer : ViewerConfig) (f : CapturedFrame)
    (item : AlertItem Image) : Prop where
  announced : ∃ body, encode (dumps item.payload.toJson) = .ok body ∧ ∀ now s t r s',
    Exec (aenv.callback body now) s t r s' → r = .ok () ∧ acks t = 1 ∧ startedAlerts t =
      if now.cooledDown aenv.ntfyCooldown (s.lastCamNtfy (frameKey f.camera)) then
        [receivedAlert item.payload] else []
  posted : ∃ title tags url data, LinkReads viewer url item.filename ∧ ∀ t r,
    Exec (aenv.sendNtfyPhoto (receivedAlert item.payload)) () t r () →
      PostsPhoto aenv (photoHeaders title tags url) data t

/-- In every run of the detector on frames of the capturer, each alert arrives: the callback
survives it in every state, and its photo, if it is started, is posted with a link to the picture. -/
theorem alert_arrives (hlimit : 2 ≤ denv.loadsLimit) (hconf : ConfidencesInRange denv)
    (hhost : ∀ c ∈ denv.instanceId, isHostChar c = true) (hcap : Capable aenv)
    (hshares : SharesCode aenv viewer) {run : List (FrameEvent Image)} {s : DetectorState}
    (hrun : DetectorRun denv run s) {e : FrameEvent Image} (he : e ∈ run)
    (hitem : item ∈ submittedItems e.calls) : AlertArrives aenv viewer e.frame item := by
  have halert := run_isAlert hlimit hconf hrun he hitem
  have hprob := run_probability hconf hrun he hitem
  constructor
  · obtain ⟨body, hbody, hread⟩ := readAlert_payload aenv hcap.loads (sendable_isAlert hhost halert)
    exact ⟨body, hbody, fun now s t r s' hexec => (healthy_isAlert hcap halert hread).callback hexec⟩
  · obtain ⟨hcamera, time, htime, hpath, hfile⟩ := halert
    obtain ⟨authority, hpublic, hslash, hquestion, hhash⟩ := hshares.address
    obtain ⟨url, hurl, hreads⟩ : ∃ url, aenv.imageUrl (detectionPath denv.instanceId e.frame time) =
        some url ∧ LinkReads viewer url (detectionPath denv.instanceId e.frame time) :=
      alert_link_reads hhost hpublic hslash hquestion hhash hshares.shared hshares.secret
        hshares.unreserved
    obtain ⟨title, message, tags, data, htext, hdata⟩ :=
      @ntfyText_isAlert _ aenv e.frame item time hcamera hprob
    refine ⟨title, tags, url, data, ?_, ?_⟩
    · rw [hfile, hpath]
      exact hreads
    · intro t r hexec
      refine exec_sendNtfyPhoto_posts ?_ ?_ hurl htext hdata hexec
      · rw [receivedAlert, htime]
        exact cleanTimestamp_text time
      · rw [receivedAlert, hpath]

end Delivery

/-! ### The first alert of a camera -/

section FirstAlert

lemma bypass_sharesCode : SharesCode bypassAlertEnv tokenConfig where
  address := ⟨lit "watch.yourdomain.com", rfl, by decide, by decide, by decide⟩
  shared := rfl
  secret := by decide
  unreserved := List.all_eq_true.mp (by decide)

lemma bypass_capable : Capable bypassAlertEnv where
  loads := show 4 ≤ 1000 by norm_num
  ntfy := fitsFloat_small 60 (by norm_num [maxStrDigits])
  call := fitsFloat_small 90 (by norm_num [maxStrDigits])

/-- The frame behind the warm-up raises an alert. -/
lemma firstAlert_exists : ∃ run s e item, DetectorRun onePersonEnv run s ∧ e ∈ run ∧
    e.frame = stillFrame firstCamera ∧ item ∈ submittedItems e.calls := by
  obtain ⟨run, s, hrun, hframes⟩ :=
    exists_detectorRun onePersonEnv (List.replicate 31 (stillFrame firstCamera))
  have hlength : run.length = 31 := by
    rw [← List.length_map (f := FrameEvent.frame), hframes, List.length_replicate]
  have hframe : ∀ e ∈ run, e.frame = stillFrame firstCamera := by
    intro e he
    have hmem := List.mem_map_of_mem (f := FrameEvent.frame) he
    rw [hframes] at hmem
    exact (List.mem_replicate.mp hmem).2
  have hlaw := (detectorRun_inv (show 2 ≤ 1000 by norm_num) onePerson_confidences hrun).1
  have hown : ∀ k, ownEvents firstCamera (run.take k) = run.take k := by
    intro k
    apply List.filter_eq_self.mpr
    intro e he
    rw [hframe e (List.mem_of_mem_take he)]
    exact decide_eq_true rfl
  have hlast : run[30].frame = stillFrame firstCamera := hframe _ (List.getElem_mem _)
  have hnone : lastAlerted (run.take 30) = none := by
    cases hlatest : lastAlerted (run.take 30) with
    | none => rfl
    | some hash =>
      -- the frames of the warm-up raise nothing
      obtain ⟨e, he, halerted⟩ := History.latestOf_eq_some hlatest
      obtain ⟨k, hk, rfl⟩ := List.mem_iff_getElem.mp he
      rw [List.length_take, hlength] at hk
      have hevent := hlaw k (by omega)
      have hcamera : run[k].frame.camera = firstCamera := by
        rw [hframe _ (List.getElem_mem _)]
        rfl
      have hitems := hevent.warmup (by
        rw [hcamera, hown, List.length_take]
        omega)
      rw [List.getElem_take] at halerted
      simp [alertedHash, alerted, hitems] at halerted
  have hevent := hlaw 30 (by omega)
  have hcamera : run[30].frame.camera = firstCamera := by
    rw [hlast]
    rfl
  have hlate : 30 ≤ (ownEvents run[30].frame.camera (run.take 30)).length := by
    rw [hcamera, hown, List.length_take]
    omega
  have hfinds : FindsPerson onePersonEnv run[30].frame :=
    ⟨(), _, rfl, rfl, by simp⟩
  obtain ⟨item, hitem⟩ := (hevent.alert_iff hlate).mpr ⟨hfinds, by
    rw [hcamera, hown, hnone]
    simp⟩
  exact ⟨run, s, run[30], item, hrun, List.getElem_mem _, hlast, by rw [hitem]; simp⟩

theorem alert_arrives_first : ∃ item : AlertItem Unit,
    AlertArrives bypassAlertEnv tokenConfig (stillFrame firstCamera) item := by
  obtain ⟨run, s, e, item, hrun, he, hframe, hitem⟩ := firstAlert_exists
  refine ⟨item, ?_⟩
  rw [← hframe]
  exact alert_arrives (show 2 ≤ onePersonEnv.loadsLimit from show 2 ≤ 1000 by norm_num)
    onePerson_confidences worker_hostname bypass_capable bypass_sharesCode hrun he hitem

end FirstAlert

end IntruderWatch.Proofs
