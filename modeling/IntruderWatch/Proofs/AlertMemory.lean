import IntruderWatch.Proofs.FrameAcknowledgement

/-!
# What the detector remembers of an alert

The hash is remembered before the file name is built from it. A truthy hash without a text for its
first eight elements (a number, `true`, a dictionary, a list nested too deeply) is therefore
remembered without an alert, and for such messages only.
-/

namespace IntruderWatch.Proofs
open Py Interaction

variable {Image : Type} {env : DetectorEnv Image} {m : FrameLocals} {s s' : DetectorState}
  {t : DetectTrace Image} {r : Except Exn Unit}

/-! ### The branch with boxes -/

/-- A value that has served as a key has a text. -/
lemma text_camera_isOk (env : DetectorEnv Image) (m : FrameLocals) :
    ∃ text, env.text m.cameraId = .ok text := by
  apply Json.toStr_isOk_iff.mpr
  rw [Json.depth_of_key m.keyed]
  exact Nat.zero_le _

/-- The file name depends on nothing but the first eight elements of the hash. -/
lemma detectionFile_cases (env : DetectorEnv Image) (m : FrameLocals) (time : DateTime) :
    ((∃ text, env.hashPrefix m.expectedHash = .ok text) →
      ∃ filename, env.detectionFile m time.text = .ok filename) ∧
    ∀ e, env.hashPrefix m.expectedHash = .error e → env.detectionFile m time.text = .error e := by
  obtain ⟨camera, hcamera⟩ := text_camera_isOk env m
  have hdir : ∃ dir, DetectorEnv.detectionDir camera time.text = .ok dir := by
    rw [DetectorEnv.detectionDir, time.words_text]
    exact ⟨_, rfl⟩
  obtain ⟨dir, hdir⟩ := hdir
  rw [DetectorEnv.detectionFile, hcamera]
  simp only [bind, Except.bind, hdir]
  constructor
  · rintro ⟨text, hhead⟩
    rw [hhead]
    exact ⟨_, rfl⟩
  · intro e hhead
    rw [hhead]

/-- The branch remembers first; it submits one alert if the hash has a prefix, and raises if not. -/
lemma raiseAlert_remembers {frame : Image} {boxes : Detections} (hne : boxes.val ≠ [])
    (h : Exec (env.raiseAlert m frame boxes) s t r s') :
    s' = remembered m s ∧
    ((∃ text, env.hashPrefix m.expectedHash = .ok text) → r = .ok () ∧
      ∃ item, submittedItems t = [item] ∧ item.payload.camera = m.cameraId) ∧
    ∀ e, env.hashPrefix m.expectedHash = .error e → r = .error e ∧ submittedItems t = [] := by
  obtain ⟨hs, time, hbuilt⟩ := exec_raiseAlert hne h
  obtain ⟨hok, herror⟩ := detectionFile_cases env m time
  refine ⟨hs, ?_, ?_⟩
  · intro hhead
    obtain ⟨filename, hfile⟩ := hok hhead
    rcases hbuilt with ⟨e, he, -⟩ | ⟨filename', item, -, hr, hitem, halert⟩
    · cases hfile.symm.trans he
    · exact ⟨hr, item, hitem, halert.camera⟩
  · intro e hhead
    rcases hbuilt with ⟨e', he, hr, hitems⟩ | ⟨filename, item, hfile, -⟩
    · obtain rfl := Except.error.inj (he.symm.trans (herror e hhead))
      exact ⟨hr, hitems⟩
    · cases (herror e hhead).symm.trans hfile

/-! ### One message -/

/-- A person is found in a message that is neither skipped for the warm-up nor a duplicate. -/
def PersonReached (env : DetectorEnv Image) (s : DetectorState) (m : FrameLocals) (drawn : Image)
    (boxes : Detections) : Prop :=
  warmupLimit ≤ s.warmupCount m.key ∧ env.isDuplicate s m = .ok false ∧
    detected env m = .ok (some (drawn, boxes)) ∧ boxes.val ≠ []

def isException : DetectEvent Image → Bool
  | ⟨.errorsTotal _ errorType, _⟩ => errorType = "exception"
  | _ => false

/-- The message fails before it is acknowledged. -/
def ProcessingFailed (t : DetectTrace Image) : Prop :=
  ∃ c, t.find? (fun c => isAck c || isException c) = some c ∧ isException c = true

lemma find?_work {t : DetectTrace Image} (h : ∀ c ∈ t, IsWork c.1) :
    t.find? (fun c => isAck c || isException c) = none := by
  rw [List.find?_eq_none]
  rintro ⟨op, answer⟩ hc
  have hwork := h _ hc
  cases op with
  | basicAck | errorsTotal => exact hwork.elim
  | _ => exact Bool.false_ne_true

/-- Work that ends in an acknowledgement has not failed before it. -/
lemma not_failed_acked {t₁ t₂ : DetectTrace Image} {answer : Except Exn Unit}
    (h : ∀ c ∈ t₁, IsWork c.1) : ¬ ProcessingFailed (t₁ ++ ⟨.basicAck, answer⟩ :: t₂) := by
  rintro ⟨c, hfind, hc⟩
  rw [List.find?_append, find?_work h, Option.none_or] at hfind
  obtain rfl : (⟨.basicAck, answer⟩ : DetectEvent Image) = c := Option.some.inj hfind
  cases hc

/-- The hash of a submitted alert is remembered behind the acknowledgement that follows it. -/
lemma afterInference_remembers {drawn : Image} {boxes : Detections} (hne : boxes.val ≠ [])
    (h : Exec (afterInference env m drawn boxes) s t r s') :
    s' = remembered m s ∧
    ((∃ text, env.hashPrefix m.expectedHash = .ok text) → ∃ t₁ answer,
      t = t₁ ++ [⟨.basicAck, answer⟩] ∧ (∀ c ∈ t₁, IsWork c.1) ∧
      ∃ item, submittedItems t = [item] ∧ item.payload.camera = m.cameraId) ∧
    ∀ e, env.hashPrefix m.expectedHash = .error e → submittedItems t = [] := by
  rcases exec_afterInference h with ⟨e, hraise, -⟩ | ⟨t₁, answer, rfl, hraise, -⟩
  · obtain ⟨hs, hok, herror⟩ := raiseAlert_remembers hne hraise
    refine ⟨hs, ?_, fun e' he' => (herror e' he').2⟩
    intro hhead
    cases (hok hhead).1
  · obtain ⟨hs, hok, herror⟩ := raiseAlert_remembers hne hraise
    refine ⟨hs, ?_, ?_⟩
    · intro hhead
      obtain ⟨-, item, hitem, hcamera⟩ := hok hhead
      refine ⟨t₁ ++ [⟨.framesProcessed m.cameraId, ()⟩], answer, by simp, ?_, item, ?_, hcamera⟩
      · intro c hc
        rcases List.mem_append.mp hc with hc | hc
        · exact (uses_raiseAlert env m drawn boxes).calls _ _ _ _ hraise c hc
        · obtain rfl := List.mem_singleton.mp hc
          trivial
      · rw [submittedItems_append, hitem]
        rfl
    · intro e he
      cases (herror e he).1

/-- A message comes to the inference with a person, or leaves the remembered hashes alone. -/
lemma processFrame_reaches (h : Exec (env.processFrame m) s t r s') :
    (∃ drawn boxes t₁ t₂, PersonReached env s m drawn boxes ∧ t = t₁ ++ t₂ ∧
      (∀ c ∈ t₁, IsWork c.1) ∧ submittedItems t = submittedItems t₂ ∧
      Exec (afterInference env m drawn boxes) s.countFrame t₂ r s') ∨
    (∀ drawn boxes, ¬ PersonReached env s m drawn boxes) ∧ s'.lastSavedHashes = s.lastSavedHashes := by
  rcases exec_processFrame h with ⟨hwarm, rfl, -⟩ |
    ⟨hlate, t₁, t₂, rfl, hcount, hitems, ⟨hskip, rfl, -⟩ | ⟨hgo, hdetect⟩⟩
  · refine Or.inr ⟨?_, rfl⟩
    rintro drawn boxes ⟨hlate, -⟩
    exact absurd hwarm (Nat.not_lt.mpr hlate)
  · refine Or.inr ⟨?_, rfl⟩
    rintro drawn boxes ⟨-, hgo, -⟩
    exact hskip hgo
  rcases exec_detect hdetect with ⟨drawn, boxes, hdetected, hne, hafter⟩ | ⟨hnone, rfl, -⟩
  · exact Or.inl ⟨drawn, boxes, t₁, t₂, ⟨hlate, hgo, hdetected, hne⟩, rfl,
      uses_countHeartbeat.calls _ _ _ _ hcount, hitems, hafter⟩
  · refine Or.inr ⟨?_, rfl⟩
    rintro drawn boxes ⟨-, -, hdetected, hne⟩
    exact hne (hnone drawn boxes hdetected)

/-! ### Every message -/

/-- What is asked of the memory: it changes for a camera only with an alert of that camera, and not
at all if the message fails. -/
structure AlertRemembered (s : DetectorState) (t : DetectTrace Image) (s' : DetectorState) : Prop where
  submitted : ∀ key, s'.lastSavedHashes key ≠ s.lastSavedHashes key →
    ∃ item ∈ submittedItems t, item.payload.camera.toKey = .ok key
  failed : ProcessingFailed t → s'.lastSavedHashes = s.lastSavedHashes

/-- A person is found in a message whose hash is truthy, new to its camera and without a text for
its first eight elements. -/
def LosesAlert (env : DetectorEnv Image) (body : List UInt8) (s : DetectorState) : Prop :=
  ∃ m drawn boxes, IsMessage env body m ∧ PersonReached env s m drawn boxes ∧
    m.expectedHash.truthy = true ∧ (∃ e, env.hashPrefix m.expectedHash = .error e) ∧
    s.lastSavedHashes m.key ≠ some m.expectedHash

lemma AlertRemembered.unchanged (h : s'.lastSavedHashes = s.lastSavedHashes) :
    AlertRemembered s t s' :=
  ⟨fun key hkey => absurd (congrFun h key) hkey, fun _ => h⟩

lemma remembered_lastSavedHashes (m : FrameLocals) (s : DetectorState) :
    (remembered m s.countFrame).lastSavedHashes =
      if m.expectedHash.truthy then Function.update s.lastSavedHashes m.key (some m.expectedHash)
      else s.lastSavedHashes := by
  unfold remembered
  split_ifs <;> rfl

/-- A message in which a person is found: what is remembered, and what becomes of its alert. -/
structure ReachedMessage (env : DetectorEnv Image) (m : FrameLocals) (s : DetectorState)
    (t : DetectTrace Image) (s' : DetectorState) : Prop where
  hashes : s'.lastSavedHashes = (remembered m s.countFrame).lastSavedHashes
  sent : (∃ text, env.hashPrefix m.expectedHash = .ok text) →
    (∃ item ∈ submittedItems t, item.payload.camera.toKey = .ok m.key) ∧ ¬ ProcessingFailed t
  lost : ∀ e, env.hashPrefix m.expectedHash = .error e → submittedItems t = []

lemma reached_exec {body : List UInt8} {drawn : Image} {boxes : Detections}
    (hm : IsMessage env body m) (hreached : PersonReached env s m drawn boxes)
    (h : Exec (env.callback body) s t r s') : ReachedMessage env m s t s' := by
  obtain ⟨t₁, t₂, r₁, rfl, hprocess, hitems⟩ := exec_callback_message hm h
  rcases processFrame_reaches hprocess with
    ⟨drawn', boxes', t₃, t₄, ⟨-, -, -, hne⟩, rfl, hwork, hnone, hafter⟩ | ⟨hnot, -⟩
  swap
  · exact (hnot drawn boxes hreached).elim
  obtain ⟨rfl, hsent, hlost⟩ := afterInference_remembers hne hafter
  refine ⟨rfl, ?_, ?_⟩
  · intro hhead
    obtain ⟨t₅, answer, rfl, hwork', item, hitem, hcamera⟩ := hsent hhead
    constructor
    · refine ⟨item, ?_, by rw [hcamera]; exact m.keyed⟩
      rw [submittedItems_append, submittedItems_append, hitem]
      simp
    · have hsplit : t₃ ++ (t₅ ++ [⟨.basicAck, answer⟩]) ++ t₂ =
          (t₃ ++ t₅) ++ ⟨.basicAck, answer⟩ :: t₂ := by simp
      rw [hsplit]
      apply not_failed_acked
      intro c hc
      exact (List.mem_append.mp hc).elim (hwork c) (hwork' c)
  · intro e he
    rw [submittedItems_append, hnone, hlost e he, hitems]
    rfl

/-- Without a person nothing changes. -/
lemma unreached_exec {body : List UInt8}
    (hnot : ∀ m drawn boxes, IsMessage env body m → ¬ PersonReached env s m drawn boxes)
    (h : Exec (env.callback body) s t r s') : s'.lastSavedHashes = s.lastSavedHashes := by
  by_cases hmessage : ∃ m, IsMessage env body m
  · obtain ⟨m, hm⟩ := hmessage
    obtain ⟨t₁, t₂, r₁, rfl, hprocess, -⟩ := exec_callback_message hm h
    rcases processFrame_reaches hprocess with ⟨drawn, boxes, -, -, hreached, -⟩ | ⟨-, hsame⟩
    · exact (hnot m drawn boxes hm hreached).elim
    · exact hsame
  · rw [exec_callback_no_message (fun m hm => hmessage ⟨m, hm⟩) h]

/-- The remembered hashes are right if and only if the message does not lose its alert. -/
theorem alert_remembered_iff {body : List UInt8} (h : Exec (env.callback body) s t r s') :
    AlertRemembered s t s' ↔ ¬ LosesAlert env body s := by
  constructor
  · rintro hremembered ⟨m, drawn, boxes, hm, hreached, htruthy, ⟨e, he⟩, hnew⟩
    obtain ⟨hhashes, -, hlost⟩ := reached_exec hm hreached h
    rw [remembered_lastSavedHashes, if_pos htruthy] at hhashes
    have hchanged : s'.lastSavedHashes m.key ≠ s.lastSavedHashes m.key := by
      rw [hhashes, Function.update_self]
      exact hnew.symm
    obtain ⟨item, hitem, -⟩ := hremembered.submitted m.key hchanged
    rw [hlost e he] at hitem
    cases hitem
  · intro hkeeps
    by_cases hreached : ∃ m drawn boxes, IsMessage env body m ∧ PersonReached env s m drawn boxes
    swap
    · apply AlertRemembered.unchanged
      exact unreached_exec (fun m drawn boxes hm hr => hreached ⟨m, drawn, boxes, hm, hr⟩) h
    obtain ⟨m, drawn, boxes, hm, hr⟩ := hreached
    obtain ⟨hhashes, hsent, -⟩ := reached_exec hm hr h
    rw [remembered_lastSavedHashes] at hhashes
    split_ifs at hhashes with htruthy
    swap
    · exact .unchanged hhashes
    cases hhead : env.hashPrefix m.expectedHash with
    | ok text =>
      obtain ⟨hitem, hprocessed⟩ := hsent ⟨text, hhead⟩
      refine ⟨?_, fun hfailed => absurd hfailed hprocessed⟩
      intro key hkey
      by_cases hcamera : key = m.key
      · rw [hcamera]
        exact hitem
      · rw [hhashes, Function.update_of_ne hcamera] at hkey
        exact absurd rfl hkey
    | error e =>
      -- the value was remembered before, so that remembering it again changes nothing
      have hold : s.lastSavedHashes m.key = some m.expectedHash := by
        by_contra hnew
        exact hkeeps ⟨m, drawn, boxes, hm, hr, htruthy, ⟨e, hhead⟩, hnew⟩
      rw [← hold, Function.update_eq_self] at hhashes
      exact .unchanged hhashes

/-! ### A numeric hash -/

section NumericHash

/-- The body `{"camera":1,"hash":7,"image":"/9g="}`. -/
def numericHashBody : List UInt8 :=
  [123, 34, 99, 97, 109, 101, 114, 97, 34, 58, 49, 44, 34, 104, 97, 115, 104, 34, 58, 55, 44, 34,
    105, 109, 97, 103, 101, 34, 58, 34, 47, 57, 103, 61, 34, 125]

def noon : DateTime := ⟨2026, 10, 3, 12, 0, 0, 0, by norm_num⟩

def numericCamera : Json := .int (smallInteger 1 (by norm_num [maxStrDigits]))

def numericKey : Key := .num 1

/-- The first camera after its warm-up. -/
def warmedUp : DetectorState := ⟨Function.update (fun _ => none) numericKey (some 30), fun _ => none, 0⟩

def numericHash : Json := .int (smallInteger 7 (by norm_num [maxStrDigits]))

def numericHashState : DetectorState :=
  { warmedUp.countFrame with lastSavedHashes := Function.update (fun _ => none) numericKey (some numericHash) }

/-- No alert is submitted; the message fails. -/
def numericHashCalls : DetectTrace Unit :=
  [⟨.now, noon⟩, ⟨.errorsTotal numericCamera "exception", ()⟩, ⟨.basicAck, Except.ok ()⟩]

/-- The message behind the body. -/
def numericMessage : FrameLocals where
  cameraId := numericCamera
  key := numericKey
  keyed := rfl
  expectedHash := numericHash
  payload := [(lit "camera", numericCamera), (lit "hash", numericHash), (lit "image", .str (lit "/9g="))]

/-- The box that `onePersonEnv` finds in every picture. -/
def personBox : Detection :=
  ⟨boolInteger false, boolInteger false, boolInteger true, boolInteger true, .ofNat 1 one_lt_two_pow⟩

def personBoxes : Detections := ⟨[personBox], by simp⟩

lemma personBoxes_drawn : personBoxes.val.foldlM onePersonEnv.drawBox () = .ok () := by
  obtain ⟨drawn, hdrawn⟩ : ∃ drawn, personBoxes.val.foldlM onePersonEnv.drawBox () = .ok drawn :=
    drawBoxes_isOk (onePerson_confidences () personBoxes rfl) ()
  exact hdrawn

lemma numericMessage_isMessage : IsMessage onePersonEnv numericHashBody numericMessage :=
  ⟨rfl, rfl, rfl⟩

lemma numericHash_exec : Exec (onePersonEnv.callback numericHashBody) warmedUp numericHashCalls (.ok ())
    numericHashState := by
  rw [callback_message numericMessage_isMessage]
  apply exec_tryCatch.mpr
  refine Or.inr ⟨[⟨.now, noon⟩], _, .typeError, numericHashState, rfl, ?_, .call <| .call <| .ret _⟩
  change Exec (do
    let drawn ← evaluate (personBoxes.val.foldlM onePersonEnv.drawBox ())
    afterInference onePersonEnv numericMessage drawn personBoxes) warmedUp.countFrame _ _ _
  rw [personBoxes_drawn]
  exact .call <| .ret _

lemma numericHash_changed :
    numericHashState.lastSavedHashes numericKey ≠ warmedUp.lastSavedHashes numericKey :=
  fun h => nomatch h

/-- The number is remembered for the camera; no alert goes out. -/
theorem numericHash_loses_alert : ¬ ∀ (body : List UInt8) (s : DetectorState) t r s',
    Exec (onePersonEnv.callback body) s t r s' → AlertRemembered s t s' := by
  intro hall
  have hremembered := hall _ _ _ _ _ numericHash_exec
  obtain ⟨item, hitem, -⟩ := hremembered.submitted numericKey numericHash_changed
  cases hitem

end NumericHash

/-! ### A hash of two characters -/

section TextHash

/-- The body `{"camera":1,"hash":"a1","image":"/9g="}`. -/
def textHashBody : List UInt8 :=
  [123, 34, 99, 97, 109, 101, 114, 97, 34, 58, 49, 44, 34, 104, 97, 115, 104, 34, 58, 34, 97, 49,
    34, 44, 34, 105, 109, 97, 103, 101, 34, 58, 34, 47, 57, 103, 61, 34, 125]

def textHash : Json := .str (lit "a1")

def textMessage : FrameLocals where
  cameraId := numericCamera
  key := numericKey
  keyed := rfl
  expectedHash := textHash
  payload := [(lit "camera", numericCamera), (lit "hash", textHash), (lit "image", .str (lit "/9g="))]

lemma textMessage_isMessage : IsMessage onePersonEnv textHashBody textMessage :=
  ⟨rfl, rfl, rfl⟩

lemma textMessage_reached : PersonReached onePersonEnv warmedUp textMessage () personBoxes := by
  refine ⟨le_refl 30, rfl, ?_, by simp [personBoxes]⟩
  change (do
    let drawn ← personBoxes.val.foldlM onePersonEnv.drawBox ()
    (Except.ok (some (drawn, personBoxes)) : Except Exn (Option (Unit × Detections)))) = _
  rw [personBoxes_drawn]
  rfl

lemma textHash_kept : ¬ LosesAlert onePersonEnv textHashBody warmedUp := by
  rintro ⟨m, drawn, boxes, ⟨hpayload, -, hhash⟩, -, -, ⟨e, he⟩, -⟩
  have hsame : m.payload = textMessage.payload :=
    Except.ok.inj (hpayload.symm.trans textMessage_isMessage.1)
  rw [hhash, hsame] at he
  cases he

/-- A camera past its warm-up, whose alert is submitted and whose hash is remembered. -/
theorem alert_remembered_iff_text : ∃ t r s',
    Exec (onePersonEnv.callback textHashBody) warmedUp t r s' ∧
      (∃ item ∈ submittedItems t, item.payload.camera.toKey = .ok numericKey) ∧
      s'.lastSavedHashes numericKey = some textHash ∧ AlertRemembered warmedUp t s' := by
  obtain ⟨t, ⟨r, s'⟩, hruns⟩ := ((onePersonEnv.callback textHashBody) warmedUp).exists_runs
  have hexec : Exec (onePersonEnv.callback textHashBody) warmedUp t r s' := hruns
  obtain ⟨hhashes, hsent, -⟩ := reached_exec textMessage_isMessage textMessage_reached hexec
  refine ⟨t, r, s', hexec, (hsent ⟨_, rfl⟩).1, ?_, (alert_remembered_iff hexec).mpr textHash_kept⟩
  rw [hhashes]
  rfl

end TextHash

end IntruderWatch.Proofs
