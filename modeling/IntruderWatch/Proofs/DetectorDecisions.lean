import IntruderWatch.Library.Histories
import IntruderWatch.Proofs.DetectorCallback
import IntruderWatch.Proofs.FrameMessages

/-!
# Decisions of the detector

What one frame message does to the detector, and from it that the alerts of each camera follow
from its own messages: the first ones are skipped, and a later one raises an alert if the model
finds a person and its hash differs from that of the camera's last alert.
-/

namespace IntruderWatch.Proofs
open Py Interaction History

variable {Image α β : Type} {env : DetectorEnv Image} {f : CapturedFrame}
  {s s' : DetectorState} {t : DetectTrace Image} {r : Except Exn Unit}

/-! ### A frame as the callback sees it -/

def frameKey (camera : GoInt) : Key := .num camera.val

lemma frameKey_inj {c d : GoInt} (h : frameKey c = frameKey d) : c = d := by
  apply Subtype.ext
  exact_mod_cast Key.num.inj h

def frameLocals (f : CapturedFrame) : FrameLocals where
  cameraId := .int (goInteger f.camera)
  key := frameKey f.camera
  keyed := rfl
  expectedHash := .str (frameHash f)
  payload := (frameFields f).map fieldValue

lemma subscript_image (f : CapturedFrame) :
    subscript (lit "image") ((frameFields f).map fieldValue) =
      .ok (.str (asciiText (Base64.encode f.jpegBytes))) :=
  rfl

lemma frameLocals_isMessage (hlimit : 2 ≤ env.loadsLimit) (f : CapturedFrame) :
    IsMessage env (marshal f.payload) (frameLocals f) :=
  ⟨readPayload_marshal hlimit f, rfl, rfl⟩

lemma text_camera (f : CapturedFrame) :
    env.text (.int (goInteger f.camera)) = .ok (decimal f.camera.val) := by
  simp [DetectorEnv.text, Json.toStr, Json.depth, Json.repr, goInteger]

lemma hashPrefix_frame (f : CapturedFrame) :
    env.hashPrefix (.str (frameHash f)) = .ok ((frameHash f).take 8) :=
  rfl

/-! ### Boxes and file names -/

/-- The model's confidences are probabilities. -/
def ConfidencesInRange (env : DetectorEnv Image) : Prop :=
  ∀ img boxes, env.model img = .ok boxes → ∀ b ∈ boxes.val,
    ∃ m : Magnitude, b.conf = .finite false m ∧ m.val ≤ 1

lemma hundred_lt_threshold : (100 : ℚ) < overflowThreshold := by
  have hadd := (isMagnitude_natCast (n := 100) (by norm_num)).add_lt
    (show (0 : ℚ) < 2 ^ 970 by positivity)
  simpa using hadd

lemma drawBox_isOk (frame : Image) {b : Detection} {m : Magnitude} (hconf : b.conf = .finite false m)
    (hm : m.val ≤ 1) : ∃ frame', env.drawBox frame b = .ok frame' := by
  have hle : m.val * ((100 : ℕ) : ℚ) ≤ 100 := by
    push_cast
    linarith
  obtain ⟨p, hp⟩ := roundMagnitude_isSome (mul_nonneg m.2.nonneg (by positivity))
    (hle.trans_lt hundred_lt_threshold)
  have hmul : b.conf.mul (.ofNat 100 DetectorEnv.hundred_lt_two_pow) = .finite false p := by
    rw [hconf]
    simp only [Binary64.ofNat, Binary64.mul, Binary64.ofSigned, hp, bne_self_eq_false]
  rw [DetectorEnv.drawBox, hmul]
  exact ⟨_, rfl⟩

lemma drawBoxes_isOk {boxes : List Detection}
    (hconf : ∀ b ∈ boxes, ∃ m : Magnitude, b.conf = .finite false m ∧ m.val ≤ 1) (frame : Image) :
    ∃ frame', boxes.foldlM env.drawBox frame = .ok frame' := by
  induction boxes generalizing frame with
  | nil => exact ⟨frame, rfl⟩
  | cons b boxes ih =>
    obtain ⟨m, hb, hm⟩ := hconf b List.mem_cons_self
    obtain ⟨frame₁, hfirst⟩ : ∃ frame', env.drawBox frame b = .ok frame' := drawBox_isOk frame hb hm
    obtain ⟨frame₂, hrest⟩ := ih (fun b hmem => hconf b (List.mem_cons_of_mem _ hmem)) frame₁
    exact ⟨frame₂, by rw [List.foldlM_cons, hfirst]; exact hrest⟩

/-- The file of a detection. -/
def detectionPath (instanceId : Str) (f : CapturedFrame) (time : DateTime) : Str :=
  lit "/app/captures/camera_" ++ decimal f.camera.val ++ slash :: time.dateText ++ lit "/det_" ++
    time.text ++ lit "_" ++ (frameHash f).take 8 ++ lit "_" ++ instanceId.take 6 ++ lit ".jpg"

lemma decimal_getLast? (n : ℤ) : (decimal n).getLast? ≠ some slash := by
  intro h
  have hval := mem_decimal (List.mem_of_getLast? h)
  have hslash : slash.val = 47 := rfl
  omega

lemma detectionDir_frame (f : CapturedFrame) (time : DateTime) :
    DetectorEnv.detectionDir (decimal f.camera.val) time.text =
      .ok (lit "/app/captures/camera_" ++ decimal f.camera.val ++ slash :: time.dateText) := by
  have hdate : time.dateText.head? ≠ some slash := by
    intro h
    have hval := time.mem_dateText (List.mem_of_head? h)
    have hslash : slash.val = 47 := rfl
    omega
  have hcamera : decimal f.camera.val ≠ [] := by
    intro hnil
    have hparse := parseInt_decimal (goInteger f.camera)
    rw [show decimal (goInteger f.camera).val = [] from hnil] at hparse
    cases hparse
  have hlast : (lit "/app/captures/camera_" ++ decimal f.camera.val).getLast? ≠ some slash := by
    rw [List.getLast?_append_of_ne_nil _ hcamera]
    exact decimal_getLast? _
  have hdir : lit "/app/captures/camera_" ++ decimal f.camera.val ≠ [] :=
    List.append_ne_nil_of_right_ne_nil _ hcamera
  rw [DetectorEnv.detectionDir, time.words_text]
  dsimp only
  rw [pathJoin, if_neg hdate, if_neg (not_or.mpr ⟨hdir, hlast⟩)]

lemma detectionFile_frame (f : CapturedFrame) (time : DateTime) :
    env.detectionFile (frameLocals f) time.text = .ok (detectionPath env.instanceId f time) := by
  have htext : env.text (frameLocals f).cameraId = .ok (decimal f.camera.val) := text_camera f
  have hhash : env.hashPrefix (frameLocals f).expectedHash = .ok ((frameHash f).take 8) :=
    hashPrefix_frame f
  rw [DetectorEnv.detectionFile, htext]
  simp only [bind, Except.bind, detectionDir_frame, hhash]
  rfl

/-! ### What one message does -/

/-- The image decodes and the model finds a person in it. -/
def FindsPerson (env : DetectorEnv Image) (f : CapturedFrame) : Prop :=
  ∃ frame boxes, env.imdecode f.jpegBytes = .ok (some frame) ∧ env.model frame = .ok boxes ∧
    boxes.val ≠ []

def IsAlert (env : DetectorEnv Image) (f : CapturedFrame) (item : AlertItem Image) : Prop :=
  item.payload.camera = .int (goInteger f.camera) ∧
    ∃ time, item.payload.timestamp = time.text ∧
      item.payload.filename = detectionPath env.instanceId f time ∧ item.filename = item.payload.filename

/-- The three outcomes of a frame message: the state after it and the alerts submitted. -/
inductive MessageOutcome (env : DetectorEnv Image) (f : CapturedFrame) (s : DetectorState) :
    DetectorState → List (AlertItem Image) → Prop
  | warmup : s.warmupCount (frameKey f.camera) < warmupLimit →
      MessageOutcome env f s (s.warmUp (frameKey f.camera)) []
  | skipped : warmupLimit ≤ s.warmupCount (frameKey f.camera) →
      ¬ (FindsPerson env f ∧
        s.lastSavedHashes (frameKey f.camera) ≠ some (.str (frameHash f))) →
      MessageOutcome env f s s.countFrame []
  | alert {item : AlertItem Image} : warmupLimit ≤ s.warmupCount (frameKey f.camera) →
      FindsPerson env f → s.lastSavedHashes (frameKey f.camera) ≠ some (.str (frameHash f)) →
      IsAlert env f item →
      MessageOutcome env f s (s.countFrame.remember (frameKey f.camera) (.str (frameHash f))) [item]

/-- The tables hold strings, as hashes of frame messages are. -/
def SavedStrings (s : DetectorState) : Prop :=
  ∀ key v, s.lastSavedHashes key = some v → ∃ h, v = .str h

lemma isDuplicate_frame (hsaved : SavedStrings s) : ∃ duplicate,
    env.isDuplicate s (frameLocals f) = .ok duplicate ∧
      (duplicate = true ↔ s.lastSavedHashes (frameKey f.camera) = some (.str (frameHash f))) := by
  have htruthy : (frameLocals f).expectedHash.truthy = true :=
    decide_eq_true (frameHash_ne_nil f)
  rw [DetectorEnv.isDuplicate, if_pos htruthy]
  cases hlast : s.lastSavedHashes (frameKey f.camera) with
  | none => exact ⟨false, by rw [show s.lastSavedHashes (frameLocals f).key = none from hlast], by simp⟩
  | some v =>
    obtain ⟨h, rfl⟩ := hsaved _ _ hlast
    refine ⟨decide (h = frameHash f), ?_, by simp⟩
    rw [show s.lastSavedHashes (frameLocals f).key = some (.str h) from hlast]
    exact eqAt_str _ _ _

lemma detected_frame (f : CapturedFrame) : detected env (frameLocals f) = (do
    match ← env.imdecode f.jpegBytes with
    | none => .ok none
    | some frame => do
      let boxes ← env.model frame
      let drawn ← boxes.val.foldlM env.drawBox frame
      .ok (some (drawn, boxes))) := by
  have himage : subscript (lit "image") (frameLocals f).payload =
      .ok (.str (asciiText (Base64.encode f.jpegBytes))) := subscript_image f
  rw [detected, himage]
  change (b64decode (.str (asciiText (Base64.encode f.jpegBytes))) >>= _) = _
  rw [b64decode_image]
  rfl

/-- With probabilities as confidences the boxes can be drawn. -/
lemma findsPerson_iff (hconf : ConfidencesInRange env) (f : CapturedFrame) :
    FindsPerson env f ↔ ∃ drawn boxes,
      detected env (frameLocals f) = .ok (some (drawn, boxes)) ∧ boxes.val ≠ [] := by
  rw [detected_frame]
  constructor
  · rintro ⟨frame, boxes, hframe, hmodel, hne⟩
    obtain ⟨drawn, hdrawn⟩ : ∃ drawn, boxes.val.foldlM env.drawBox frame = .ok drawn :=
      drawBoxes_isOk (hconf frame boxes hmodel) frame
    refine ⟨drawn, boxes, ?_, hne⟩
    simp only [hframe, hmodel, hdrawn, bind, Except.bind]
  · rintro ⟨drawn, boxes, hdetected, hne⟩
    obtain ⟨decoded, hframe, hrest⟩ := bind_eq_ok.mp hdetected
    cases decoded with
    | none => cases hrest
    | some frame =>
      obtain ⟨boxes', hmodel, hrest⟩ := bind_eq_ok.mp hrest
      obtain ⟨drawn', -, hboxes⟩ := bind_eq_ok.mp hrest
      obtain ⟨-, rfl⟩ := Prod.mk.inj (Option.some.inj (Except.ok.inj hboxes))
      exact ⟨frame, boxes', hframe, hmodel, hne⟩

/-- The branch with boxes remembers the hash and submits one alert. -/
lemma frame_raiseAlert {frame : Image} {boxes : Detections} (hne : boxes.val ≠ [])
    (h : Exec (env.raiseAlert (frameLocals f) frame boxes) s t r s') :
    r = .ok () ∧ s' = s.remember (frameKey f.camera) (.str (frameHash f)) ∧
      ∃ item, submittedItems t = [item] ∧ IsAlert env f item := by
  have htruthy : (frameLocals f).expectedHash.truthy = true := decide_eq_true (frameHash_ne_nil f)
  obtain ⟨hs, time, ⟨e, he, -⟩ | ⟨filename, item, hfile, hr, hitem, halert⟩⟩ := exec_raiseAlert hne h
  · cases (detectionFile_frame f time).symm.trans he
  · obtain rfl := Except.ok.inj ((detectionFile_frame f time).symm.trans hfile)
    rw [remembered, if_pos htruthy] at hs
    exact ⟨hr, hs, item, hitem, halert.camera, time, halert.timestamp, halert.path,
      halert.file.trans halert.path.symm⟩

/-- Behind the duplicate check: nothing, or the alert of a found person. -/
lemma frame_detect (hconf : ConfidencesInRange env)
    (h : Exec (env.detect (frameLocals f)) s t r s') :
    (¬ FindsPerson env f ∧ s' = s ∧ submittedItems t = []) ∨
      (FindsPerson env f ∧ s' = s.remember (frameKey f.camera) (.str (frameHash f)) ∧
        ∃ item, submittedItems t = [item] ∧ IsAlert env f item) := by
  rw [findsPerson_iff hconf]
  rcases exec_detect h with ⟨drawn, boxes, hdetected, hne, hafter⟩ | ⟨hnone, hs, hitems⟩
  · refine Or.inr ⟨⟨drawn, boxes, hdetected, hne⟩, ?_⟩
    rcases exec_afterInference hafter with ⟨e, hraise, -⟩ | ⟨t₁, answer, rfl, hraise, -⟩
    · cases (frame_raiseAlert hne hraise).1
    · obtain ⟨-, hs, item, hitem, halert⟩ := frame_raiseAlert hne hraise
      refine ⟨hs, item, ?_, halert⟩
      rw [submittedItems_append, hitem]
      rfl
  · refine Or.inl ⟨?_, hs, hitems⟩
    rintro ⟨drawn, boxes, hdetected, hne⟩
    exact hne (hnone drawn boxes hdetected)

/-- The whole callback on a frame message. -/
theorem callback_outcome (hlimit : 2 ≤ env.loadsLimit) (hconf : ConfidencesInRange env)
    (hsaved : SavedStrings s) (h : Exec (env.callback (marshal f.payload)) s t r s') :
    MessageOutcome env f s s' (submittedItems t) := by
  obtain ⟨t₀, t₁, r₁, rfl, hprocess, hnone⟩ := exec_callback_message (frameLocals_isMessage hlimit f) h
  obtain ⟨duplicate, hduplicate, hiff⟩ := @isDuplicate_frame _ env f s hsaved
  rw [submittedItems_append, hnone, List.append_nil]
  rcases exec_processFrame hprocess with ⟨hwarm, rfl, hitems⟩ |
    ⟨hlate, t₂, t₃, rfl, -, hitems, ⟨hskip, rfl, hnothing⟩ | ⟨hgo, hdetect⟩⟩
  · rw [hitems]
    exact .warmup hwarm
  · rw [hitems, hnothing]
    refine .skipped hlate (fun hnew => hskip ?_)
    rw [hduplicate, Bool.eq_false_iff.mpr (fun hyes => hnew.2 (hiff.mp hyes))]
  · obtain rfl := Except.ok.inj (hduplicate.symm.trans hgo)
    have hnew : s.lastSavedHashes (frameKey f.camera) ≠ some (.str (frameHash f)) :=
      fun hsame => Bool.false_ne_true (hiff.mpr hsame)
    rw [hitems]
    rcases frame_detect hconf hdetect with ⟨hnone, rfl, hnothing⟩ | ⟨hfinds, rfl, item, hitem, halert⟩
    · rw [hnothing]
      exact .skipped hlate (fun hand => hnone hand.1)
    · rw [hitem]
      exact .alert hlate hfinds hnew halert

/-! ### Runs -/

def ownEvents (camera : GoInt) (past : List (FrameEvent Image)) : List (FrameEvent Image) :=
  past.filter (fun e => e.frame.camera = camera)

def alerted (e : FrameEvent Image) : Bool := !(submittedItems e.calls).isEmpty

def alertedHash (e : FrameEvent Image) : Option Str :=
  if alerted e then some (frameHash e.frame) else none

/-- The hash of the last message that yielded an alert. -/
def lastAlerted (own : List (FrameEvent Image)) : Option Str := latestOf alertedHash own

/-- What becomes of a message, given the messages of its camera before it. -/
structure DecisionLaw (env : DetectorEnv Image) (own : List (FrameEvent Image))
    (e : FrameEvent Image) : Prop where
  warmup : own.length < 30 → submittedItems e.calls = []
  alert_iff : 30 ≤ own.length → ((∃ item, submittedItems e.calls = [item]) ↔
    FindsPerson env e.frame ∧ lastAlerted own ≠ some (frameHash e.frame))
  alerts : submittedItems e.calls = [] ∨
    ∃ item, submittedItems e.calls = [item] ∧ IsAlert env e.frame item

/-- The tables by the messages so far. -/
structure DetectorInv (past : List (FrameEvent Image)) (s : DetectorState) : Prop where
  counts : ∀ camera, s.warmupCount (frameKey camera) = min warmupLimit (ownEvents camera past).length
  saved : ∀ camera,
    s.lastSavedHashes (frameKey camera) = (lastAlerted (ownEvents camera past)).map Json.str
  strings : SavedStrings s

section Own

variable {past : List (FrameEvent Image)} {e : FrameEvent Image} {camera : GoInt}

lemma ownEvents_snoc : ownEvents camera (past ++ [e]) =
    ownEvents camera past ++ if e.frame.camera = camera then [e] else [] := by
  rw [ownEvents, List.filter_append, List.filter_singleton]
  by_cases h : e.frame.camera = camera
  · simp [ownEvents, h]
  · simp [ownEvents, h]

lemma lastAlerted_snoc (own : List (FrameEvent Image)) : lastAlerted (own ++ [e]) =
    if alerted e then some (frameHash e.frame) else lastAlerted own := by
  rw [lastAlerted, latestOf_snoc, alertedHash]
  split <;> rfl

end Own

lemma warmUp_count (s : DetectorState) (camera c : GoInt) :
    (s.warmUp (frameKey camera)).warmupCount (frameKey c) =
      s.warmupCount (frameKey c) + if camera = c then 1 else 0 := by
  by_cases h : camera = c
  · subst h
    simp [DetectorState.warmUp, DetectorState.warmupCount]
  · have hne : frameKey c ≠ frameKey camera := fun heq => h (frameKey_inj heq).symm
    simp [DetectorState.warmUp, DetectorState.warmupCount, h, Function.update_of_ne hne]

lemma remember_saved (s : DetectorState) (camera c : GoInt) (v : Json) :
    (s.remember (frameKey camera) v).lastSavedHashes (frameKey c) =
      if camera = c then some v else s.lastSavedHashes (frameKey c) := by
  by_cases h : camera = c
  · subst h
    simp [DetectorState.remember]
  · have hne : frameKey c ≠ frameKey camera := fun heq => h (frameKey_inj heq).symm
    simp [DetectorState.remember, h, Function.update_of_ne hne]

section Steps

variable {past : List (FrameEvent Image)} {e : FrameEvent Image}

/-- What a message does to the warm-up counts. -/
lemma MessageOutcome.count {out : List (AlertItem Image)} (h : MessageOutcome env f s s' out)
    (camera : GoInt) : s'.warmupCount (frameKey camera) = s.warmupCount (frameKey camera) +
      if f.camera = camera ∧ s.warmupCount (frameKey camera) < warmupLimit then 1 else 0 := by
  cases h with
  | warmup hwarm =>
    rw [warmUp_count]
    by_cases hcamera : f.camera = camera
    · subst hcamera
      simp [hwarm]
    · simp [hcamera]
  | skipped hlate _ =>
    rw [if_neg]
    · rfl
    · rintro ⟨rfl, hwarm⟩
      exact absurd hlate hwarm.not_ge
  | alert hlate _ _ _ =>
    rw [if_neg]
    · rfl
    · rintro ⟨rfl, hwarm⟩
      exact absurd hlate hwarm.not_ge

/-- What a message does to the remembered hashes. -/
lemma MessageOutcome.saved {out : List (AlertItem Image)} (h : MessageOutcome env f s s' out)
    (camera : GoInt) : s'.lastSavedHashes (frameKey camera) =
      if f.camera = camera ∧ out ≠ [] then some (.str (frameHash f))
      else s.lastSavedHashes (frameKey camera) := by
  cases h with
  | warmup _ => simp
  | skipped _ _ => simp
  | alert _ _ _ _ =>
    rw [remember_saved]
    simp

lemma MessageOutcome.strings {out : List (AlertItem Image)} (h : MessageOutcome env f s s' out)
    (hs : SavedStrings s) : SavedStrings s' := by
  cases h with
  | warmup _ => exact hs
  | skipped _ _ => exact hs
  | alert _ _ _ _ =>
    intro key v hv
    by_cases hkey : key = frameKey f.camera
    · subst hkey
      rw [remember_saved, if_pos rfl] at hv
      exact ⟨_, (Option.some.inj hv).symm⟩
    · apply hs key v
      rw [← hv]
      exact (Function.update_of_ne hkey _ _).symm

/-- A message without an alert leaves the remembered hashes as they are. -/
lemma MessageOutcome.hashes_kept (h : MessageOutcome env f s s' []) :
    s'.lastSavedHashes = s.lastSavedHashes := by
  cases h with
  | warmup _ => rfl
  | skipped _ _ => rfl

lemma DetectorInv.law (hinv : DetectorInv past s)
    (h : MessageOutcome env e.frame s s' (submittedItems e.calls)) :
    DecisionLaw env (ownEvents e.frame.camera past) e := by
  have hcount := hinv.counts e.frame.camera
  have hsaved := hinv.saved e.frame.camera
  have hlimit : warmupLimit = 30 := rfl
  have hnew : s.lastSavedHashes (frameKey e.frame.camera) ≠ some (.str (frameHash e.frame)) ↔
      lastAlerted (ownEvents e.frame.camera past) ≠ some (frameHash e.frame) := by
    rw [hsaved]
    cases lastAlerted (ownEvents e.frame.camera past) <;> simp
  generalize hout : submittedItems e.calls = out at h
  cases h with
  | warmup hwarm =>
    refine ⟨fun _ => hout, ?_, Or.inl hout⟩
    intro hlate
    omega
  | skipped hlate hnone =>
    refine ⟨fun _ => hout, ?_, Or.inl hout⟩
    intro _
    rw [hnew] at hnone
    constructor
    · rintro ⟨item, hitem⟩
      rw [hout] at hitem
      cases hitem
    · intro hand
      exact absurd hand hnone
  | alert hlate hfinds hdiff halert =>
    refine ⟨?_, ?_, Or.inr ⟨_, hout, halert⟩⟩
    · intro hwarm
      omega
    · intro _
      exact ⟨fun _ => ⟨hfinds, hnew.mp hdiff⟩, fun _ => ⟨_, hout⟩⟩

lemma DetectorInv.step (hinv : DetectorInv past s)
    (h : MessageOutcome env e.frame s s' (submittedItems e.calls)) : DetectorInv (past ++ [e]) s' := by
  constructor
  · intro camera
    have hcount := hinv.counts camera
    rw [h.count, ownEvents_snoc, List.length_append]
    by_cases hcamera : e.frame.camera = camera
    · simp only [hcamera, true_and, if_true, List.length_singleton]
      split_ifs <;> omega
    · simpa [hcamera] using hcount
  · intro camera
    rw [h.saved, ownEvents_snoc]
    by_cases hcamera : e.frame.camera = camera
    · rw [if_pos hcamera, lastAlerted_snoc, alerted, hinv.saved]
      cases submittedItems e.calls <;> simp [hcamera]
    · simpa [hcamera] using hinv.saved camera
  · exact h.strings hinv.strings

end Steps

/-- Every message is decided by those of its camera before it. -/
abbrev RunLaw (env : DetectorEnv Image) (past : List (FrameEvent Image)) (e : FrameEvent Image) : Prop :=
  DecisionLaw env (ownEvents e.frame.camera past) e

section Decisions

variable {run : List (FrameEvent Image)}

lemma detectorRun_inv (hlimit : 2 ≤ env.loadsLimit) (hconf : ConfidencesInRange env)
    (h : DetectorRun env run s) : Along (RunLaw env) run ∧ DetectorInv run s := by
  apply Transition.Run.invariant (fun run s => Along (RunLaw env) run ∧ DetectorInv run s) _ _ h
  · exact ⟨along_nil _, fun _ => rfl, fun _ => rfl, fun _ _ hv => by cases hv⟩
  · rintro past s e s' ⟨hlaw, hinv⟩ ⟨result, hexec⟩
    have houtcome := callback_outcome hlimit hconf hinv.strings hexec
    exact ⟨along_snoc_iff.mpr ⟨hlaw, hinv.law houtcome⟩, hinv.step houtcome⟩

lemma along_own {camera : GoInt} (h : Along (RunLaw env) run) :
    Along (DecisionLaw env) (ownEvents camera run) := by
  induction run using List.reverseRecOn with
  | nil => exact along_nil _
  | append_singleton past e ih =>
    obtain ⟨hpast, he⟩ := along_snoc_iff.mp h
    rw [ownEvents_snoc]
    by_cases hcamera : e.frame.camera = camera
    · rw [if_pos hcamera]
      exact along_snoc_iff.mpr ⟨ih hpast, hcamera ▸ he⟩
    · rw [if_neg hcamera, List.append_nil]
      exact ih hpast

/-- The messages with their decisions. -/
def decisions (own : List (FrameEvent Image)) : List (CapturedFrame × Bool) :=
  own.map (fun e => (e.frame, alerted e))

lemma lastAlerted_decisions (own : List (FrameEvent Image)) : lastAlerted own =
    latestOf (fun p : CapturedFrame × Bool => if p.2 then some (frameHash p.1) else none)
      (decisions own) := by
  rw [lastAlerted, latestOf, latestOf, decisions, List.filterMap_map]
  rfl

lemma DecisionLaw.alerted_iff {own : List (FrameEvent Image)} {e : FrameEvent Image}
    (h : DecisionLaw env own e) : alerted e = true ↔
      30 ≤ own.length ∧ FindsPerson env e.frame ∧ lastAlerted own ≠ some (frameHash e.frame) := by
  by_cases hlate : 30 ≤ own.length
  · rw [← h.alert_iff hlate, alerted]
    rcases h.alerts with hnone | ⟨item, hitem, -⟩
    · simp [hnone]
    · simp [hitem, hlate]
  · simp [alerted, h.warmup (by omega), hlate]

/-- The decisions follow from the messages. -/
theorem decisions_determined {own own' : List (FrameEvent Image)}
    (h : Along (DecisionLaw env) own) (h' : Along (DecisionLaw env) own')
    (hframes : own'.map FrameEvent.frame = own.map FrameEvent.frame) :
    decisions own' = decisions own := by
  induction own using List.reverseRecOn generalizing own' with
  | nil =>
    obtain rfl : own' = [] := by simpa using hframes
    rfl
  | append_singleton past e ih =>
    rcases List.eq_nil_or_concat own' with rfl | ⟨past', e', rfl⟩
    · simp at hframes
    · rw [List.concat_eq_append] at hframes h' ⊢
      obtain ⟨hpast, he⟩ := along_snoc_iff.mp h
      obtain ⟨hpast', he'⟩ := along_snoc_iff.mp h'
      rw [List.map_append, List.map_append] at hframes
      obtain ⟨hbefore, hlast⟩ := List.append_inj' hframes rfl
      have hframe : e'.frame = e.frame := (List.cons.inj hlast).1
      have hsame := ih hpast hpast' hbefore
      have hlen : past'.length = past.length := by
        simpa using congrArg List.length hbefore
      have halerted : alerted e' = alerted e := by
        rw [Bool.eq_iff_iff, he.alerted_iff, he'.alerted_iff, lastAlerted_decisions,
          lastAlerted_decisions, hsame, hlen, hframe]
      have hsnoc : ∀ own (e : FrameEvent Image),
          decisions (own ++ [e]) = decisions own ++ [(e.frame, alerted e)] :=
        fun _ _ => List.map_append
      rw [hsnoc, hsnoc, hsame, hframe, halerted]

/-- The alerts of a camera follow from its own messages: the first 30 are skipped, each later one
yields one alert exactly if a person is found and its hash is not that of the camera's last alert,
and a message without an alert leaves every remembered hash as it is. -/
theorem alerts_by_camera (hlimit : 2 ≤ env.loadsLimit) (hconf : ConfidencesInRange env)
    (h : DetectorRun env run s) (camera : GoInt) :
    Along (DecisionLaw env) (ownEvents camera run) ∧
      (∀ run' s', DetectorRun env run' s' →
        (ownEvents camera run').map FrameEvent.frame = (ownEvents camera run).map FrameEvent.frame →
        decisions (ownEvents camera run') = decisions (ownEvents camera run)) ∧
      ∀ e s', DetectorStep env s e s' → submittedItems e.calls = [] →
        s'.lastSavedHashes = s.lastSavedHashes := by
  obtain ⟨hlaw, hinv⟩ := detectorRun_inv hlimit hconf h
  refine ⟨along_own hlaw, ?_, ?_⟩
  · intro run' s' h' hframes
    exact decisions_determined (along_own hlaw) (along_own (detectorRun_inv hlimit hconf h').1) hframes
  · rintro e s' ⟨result, hexec⟩ hnone
    have houtcome := callback_outcome hlimit hconf hinv.strings hexec
    rw [hnone] at houtcome
    exact houtcome.hashes_kept

end Decisions

/-! ### Two cameras -/

lemma one_lt_two_pow : 1 < 2 ^ 53 := by
  norm_num

/-- A model that sees one person in every picture. -/
def onePersonEnv : DetectorEnv Unit where
  instanceId := lit "worker"
  loadsLimit := 1000
  reprLimit := 1000
  eqLimit := 1000
  printable := fun c => decide (32 ≤ c.val ∧ c.val < 127)
  imdecode := fun _ => .ok (some ())
  model := fun _ => .ok ⟨[⟨boolInteger false, boolInteger false, boolInteger true, boolInteger true,
    .ofNat 1 one_lt_two_pow⟩], by simp⟩
  rectangle := fun _ _ => ()
  putText := fun _ _ _ => ()

lemma onePerson_confidences : ConfidencesInRange onePersonEnv := by
  intro img boxes hmodel b hb
  obtain rfl := Except.ok.inj hmodel
  obtain rfl := List.mem_singleton.mp hb
  exact ⟨⟨(1 : ℕ), isMagnitude_natCast (by norm_num)⟩, rfl, by norm_num⟩

def firstCamera : GoInt := ⟨1, by norm_num⟩

def secondCamera : GoInt := ⟨2, by norm_num⟩

def stillFrame (camera : GoInt) : CapturedFrame where
  camera := camera
  jpegBytes := [255, 216]
  digest := List.replicate 32 171
  length_digest := List.length_replicate
  motionBox := none
  isPostRoll := false

/-- The first camera's warm-up, one frame of the second camera, and two more of the first. -/
def mergedFrames : List CapturedFrame :=
  List.replicate 30 (stillFrame firstCamera) ++
    [stillFrame secondCamera, stillFrame firstCamera, stillFrame firstCamera]

instance (op : DetectCall Image) : Nonempty (DetectAns op) := by
  cases op with
  | now => exact ⟨(⟨2026, 10, 3, 12, 0, 0, 0, by norm_num⟩ : DateTime)⟩
  | basicAck => exact ⟨(.ok () : Except Exn Unit)⟩
  | _ => exact ⟨()⟩

lemma exists_exec (x : DetectProc Image α) (s : DetectorState) : ∃ t r s', Exec x s t r s' := by
  obtain ⟨t, p, h⟩ := Prog.exists_runs (x.start s)
  exact ⟨t, p.1, p.2, h⟩

/-- Every sequence of messages has a run. -/
lemma exists_detectorRun (env : DetectorEnv Image) (frames : List CapturedFrame) :
    ∃ run s, DetectorRun env run s ∧ run.map FrameEvent.frame = frames := by
  induction frames using List.reverseRecOn with
  | nil => exact ⟨[], _, Transition.Run.nil, rfl⟩
  | append_singleton frames f ih =>
    obtain ⟨run, s, hrun, hframes⟩ := ih
    obtain ⟨calls, result, s', hexec⟩ := exists_exec (env.callback (marshal f.payload)) s
    have hstep : DetectorStep env s ⟨f, calls⟩ s' := ⟨result, hexec⟩
    have hnext : DetectorRun env (run ++ [⟨f, calls⟩]) s' := Transition.Run.snoc hrun hstep
    refine ⟨run ++ [⟨f, calls⟩], s', hnext, ?_⟩
    rw [List.map_append, hframes]
    rfl

/-- The alerts of the first camera in a run with frames of two cameras. -/
theorem alerts_by_camera_merged : ∃ run s, DetectorRun onePersonEnv run s ∧
    run.map FrameEvent.frame = mergedFrames ∧
    Along (DecisionLaw onePersonEnv) (ownEvents firstCamera run) := by
  obtain ⟨run, s, hrun, hframes⟩ := exists_detectorRun onePersonEnv mergedFrames
  have hlimit : 2 ≤ onePersonEnv.loadsLimit := show 2 ≤ 1000 by norm_num
  have hlaw := alerts_by_camera hlimit onePerson_confidences hrun firstCamera
  exact ⟨run, s, hrun, hframes, hlaw.1⟩

end IntruderWatch.Proofs
