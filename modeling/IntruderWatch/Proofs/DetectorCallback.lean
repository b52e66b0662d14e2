import IntruderWatch.Detector

/-!
# Runs of the detector's callback

What the parts of the callback can do, with the guard of every branch: the branch with boxes,
decoding and inference, and one message up to its acknowledgement.
-/

namespace IntruderWatch.Proofs
open Py Interaction

variable {Image α β : Type} {env : DetectorEnv Image} {m : FrameLocals} {s s' : DetectorState}
  {t : DetectTrace Image} {r : Except Exn Unit}

/-! ### Statements without submissions -/

/-- The statement submits nothing and leaves the tables as they are. -/
structure Silent (x : DetectProc Image α) : Prop where
  silent : ∀ s t r s', Exec x s t r s' → s' = s ∧ submittedItems t = []

lemma submittedItems_append (t₁ t₂ : DetectTrace Image) :
    submittedItems (t₁ ++ t₂) = submittedItems t₁ ++ submittedItems t₂ :=
  List.filterMap_append

namespace Silent

theorem evaluate (v : Except Exn α) : Silent (evaluate v : DetectProc Image α) := by
  constructor
  intro s t r s' h
  obtain ⟨rfl, -, rfl⟩ := exec_evaluate.mp h
  exact ⟨rfl, rfl⟩

theorem perform {op : DetectCall Image} (hop : op.submitted? = none) :
    Silent (perform op : DetectProc Image (DetectAns op)) := by
  constructor
  intro s t r s' h
  obtain ⟨a, rfl, -, rfl⟩ := exec_perform.mp h
  exact ⟨rfl, List.filterMap_cons_none hop⟩

theorem bind {x : DetectProc Image α} {g : α → DetectProc Image β} (hx : Silent x)
    (hg : ∀ a, Silent (g a)) : Silent (x >>= g) := by
  constructor
  intro s t r s' h
  rcases exec_bind.mp h with ⟨e, h₁, -⟩ | ⟨t₁, t₂, a, s₁, rfl, h₁, h₂⟩
  · exact hx.silent _ _ _ _ h₁
  · obtain ⟨rfl, ht₁⟩ := hx.silent _ _ _ _ h₁
    obtain ⟨rfl, ht₂⟩ := (hg a).silent _ _ _ _ h₂
    exact ⟨rfl, by rw [submittedItems_append, ht₁, ht₂, List.nil_append]⟩

theorem acknowledge : Silent (acknowledge : DetectProc Image Unit) :=
  (Silent.perform rfl).bind (fun a => Silent.evaluate a)

theorem onError (cameraId : Json) : Silent (DetectorEnv.onError cameraId : DetectProc Image Unit) := by
  apply (Silent.perform rfl).bind
  intro _
  apply (Silent.perform rfl).bind
  intro _
  exact Silent.evaluate (.ok ())

end Silent

/-! ### The branch with boxes -/

/-- The state after the hash has been remembered, if there is one. -/
def remembered (m : FrameLocals) (s : DetectorState) : DetectorState :=
  if m.expectedHash.truthy then s.remember m.key m.expectedHash else s

/-- The alert for a message at this time. -/
structure IsAlertOf (m : FrameLocals) (time : DateTime) (filename : Str) (item : AlertItem Image) :
    Prop where
  camera : item.payload.camera = m.cameraId
  timestamp : item.payload.timestamp = time.text
  path : item.payload.filename = filename
  file : item.filename = filename

/-- The branch remembers first; it submits one alert if the file name can be built, and raises if
not. -/
lemma exec_raiseAlert {frame : Image} {boxes : Detections} (hne : boxes.val ≠ [])
    (h : Exec (env.raiseAlert m frame boxes) s t r s') : s' = remembered m s ∧ ∃ time : DateTime,
    (∃ e, env.detectionFile m time.text = .error e ∧ r = .error e ∧ submittedItems t = []) ∨
    ∃ filename item, env.detectionFile m time.text = .ok filename ∧ r = .ok () ∧
      submittedItems t = [item] ∧ IsAlertOf m time filename item := by
  have hbranch : ∃ b rest, boxes.val = b :: rest ∧ Exec (do
      let timestamp := (← datetimeNow).text
      let filename ← evaluate (env.detectionFile m timestamp)
      submit ⟨frame, filename, DetectorEnv.alertPayload m timestamp filename boxes b rest⟩
      humansDetected m.cameraId boxes.val.length) (remembered m s) t r s' := by
    unfold DetectorEnv.raiseAlert at h
    split at h
    · next hnil => exact absurd hnil hne
    · next b rest hboxes =>
      refine ⟨b, rest, hboxes, ?_⟩
      unfold remembered
      split_ifs at h ⊢
      · rwa [exec_modify_bind] at h
      · exact h
  obtain ⟨b, rest, hboxes, hbranch⟩ := hbranch
  obtain ⟨time, t₁, rfl, hnow⟩ := exec_perform_bind.mp hbranch
  rcases exec_evaluate_bind.mp hnow with ⟨e, he, rfl, rfl, rfl⟩ | ⟨filename, hfile, hsubmit⟩
  · exact ⟨rfl, time, Or.inl ⟨e, he, rfl, rfl⟩⟩
  · obtain ⟨u, t₂, rfl, hcount⟩ := exec_perform_bind.mp hsubmit
    obtain ⟨v, rfl, rfl, rfl⟩ := exec_perform.mp hcount
    exact ⟨rfl, time, Or.inr ⟨filename, _, hfile, rfl, rfl, rfl, rfl, rfl, rfl⟩⟩

lemma raiseAlert_nil {frame : Image} {boxes : Detections} (hnil : boxes.val = []) :
    env.raiseAlert m frame boxes = pure () := by
  unfold DetectorEnv.raiseAlert
  split
  · rfl
  · next b rest hboxes =>
    rw [hnil] at hboxes
    cases hboxes

/-! ### Decoding and inference -/

/-- The picture with its boxes, if the message holds a picture. -/
def detected (env : DetectorEnv Image) (m : FrameLocals) : Except Exn (Option (Image × Detections)) := do
  let image ← subscript (lit "image") m.payload
  let byteData ← b64decode image
  match ← env.imdecode byteData with
  | none => .ok none
  | some frame => do
    let boxes ← env.model frame
    let drawn ← boxes.val.foldlM env.drawBox frame
    .ok (some (drawn, boxes))

/-- What follows the inference. -/
def afterInference (env : DetectorEnv Image) (m : FrameLocals) (drawn : Image) (boxes : Detections) :
    DetectProc Image Unit := do
  env.raiseAlert m drawn boxes
  framesProcessed m.cameraId
  acknowledge

/-- What follows the inference returns with its acknowledgement. -/
lemma exec_afterInference {drawn : Image} {boxes : Detections}
    (h : Exec (afterInference env m drawn boxes) s t r s') :
    (∃ e, Exec (env.raiseAlert m drawn boxes) s t (.error e) s' ∧ r = .error e) ∨
    ∃ t₁ answer, t = t₁ ++ [⟨.framesProcessed m.cameraId, ()⟩, ⟨.basicAck, answer⟩] ∧
      Exec (env.raiseAlert m drawn boxes) s t₁ (.ok ()) s' ∧ r = answer := by
  unfold afterInference at h
  rcases exec_bind.mp h with ⟨e, hraise, rfl⟩ | ⟨t₁, t₂, ⟨⟩, s₁, rfl, hraise, hrest⟩
  · exact Or.inl ⟨e, hraise, rfl⟩
  · obtain ⟨⟨⟩, t₃, rfl, hack⟩ := exec_perform_bind.mp hrest
    obtain ⟨answer, t₄, rfl, hanswer⟩ := exec_perform_bind.mp hack
    obtain ⟨rfl, rfl, rfl⟩ := exec_evaluate.mp hanswer
    exact Or.inr ⟨t₁, _, rfl, hraise, rfl⟩

/-- Decoding and inference come to a person, or to nothing. -/
lemma exec_detect (h : Exec (env.detect m) s t r s') :
    (∃ drawn boxes, detected env m = .ok (some (drawn, boxes)) ∧ boxes.val ≠ [] ∧
      Exec (afterInference env m drawn boxes) s t r s') ∨
    (∀ drawn boxes, detected env m = .ok (some (drawn, boxes)) → boxes.val = []) ∧ s' = s ∧
      submittedItems t = [] := by
  unfold DetectorEnv.detect at h
  unfold detected
  rcases exec_evaluate_bind.mp h with ⟨e, he, rfl, -, rfl⟩ | ⟨image, himage, h⟩
  · exact Or.inr ⟨by simp [he, bind, Except.bind], rfl, rfl⟩
  rw [himage]
  rcases exec_evaluate_bind.mp h with ⟨e, he, rfl, -, rfl⟩ | ⟨bytes, hbytes, h⟩
  · exact Or.inr ⟨by simp [he, bind, Except.bind], rfl, rfl⟩
  simp only [bind, Except.bind, hbytes]
  rcases exec_evaluate_bind.mp h with ⟨e, he, rfl, -, rfl⟩ | ⟨decoded, hdecoded, h⟩
  · exact Or.inr ⟨by simp [he], rfl, rfl⟩
  rw [hdecoded]
  cases decoded with
  | none =>
    have hsilent : Silent (do
        let _ ← evaluate (env.text m.cameraId)
        errorsTotal m.cameraId "decode_error"
        acknowledge : DetectProc Image Unit) :=
      (Silent.evaluate _).bind (fun _ => (Silent.perform rfl).bind (fun _ => Silent.acknowledge))
    exact Or.inr ⟨by simp, hsilent.silent _ _ _ _ h⟩
  | some frame =>
    rcases exec_evaluate_bind.mp h with ⟨e, he, rfl, -, rfl⟩ | ⟨boxes, hboxes, h⟩
    · exact Or.inr ⟨by simp [he], rfl, rfl⟩
    dsimp only
    rw [hboxes]
    rcases exec_evaluate_bind.mp h with ⟨e, he, rfl, -, rfl⟩ | ⟨drawn, hdrawn, h⟩
    · exact Or.inr ⟨by simp [he], rfl, rfl⟩
    dsimp only
    rw [hdrawn]
    by_cases hnil : boxes.val = []
    · rw [raiseAlert_nil hnil] at h
      have hsilent : Silent (do
          framesProcessed m.cameraId
          acknowledge : DetectProc Image Unit) :=
        (Silent.perform rfl).bind (fun _ => Silent.acknowledge)
      refine Or.inr ⟨?_, ((Silent.evaluate (.ok ())).bind (fun _ => hsilent)).silent _ _ _ _ h⟩
      intro drawn' boxes' hdetected
      obtain ⟨-, rfl⟩ := Prod.mk.inj (Option.some.inj (Except.ok.inj hdetected))
      exact hnil
    · exact Or.inl ⟨drawn, boxes, rfl, hnil, h⟩

/-! ### One message -/

lemma exec_countHeartbeat
    (h : Exec (DetectorEnv.countHeartbeat : DetectProc Image Unit) s t r s') :
    r = .ok () ∧ s' = s.countFrame ∧ submittedItems t = [] := by
  rw [DetectorEnv.countHeartbeat, exec_modify_bind, exec_get_bind] at h
  split at h
  · obtain ⟨u, rfl, rfl, rfl⟩ := exec_perform.mp h
    exact ⟨rfl, rfl, rfl⟩
  · obtain ⟨rfl, rfl, rfl⟩ := exec_pure.mp h
    exact ⟨rfl, rfl, rfl⟩

/-- A message is skipped for the warm-up, skipped as a duplicate or for a failing comparison, or goes
on to the inference. -/
lemma exec_processFrame (h : Exec (env.processFrame m) s t r s') :
    (s.warmupCount m.key < warmupLimit ∧ s' = s.warmUp m.key ∧ submittedItems t = []) ∨
    (warmupLimit ≤ s.warmupCount m.key ∧ ∃ t₁ t₂, t = t₁ ++ t₂ ∧
      Exec (DetectorEnv.countHeartbeat : DetectProc Image Unit) s t₁ (.ok ()) s.countFrame ∧
      submittedItems t = submittedItems t₂ ∧
      ((env.isDuplicate s m ≠ .ok false ∧ s' = s.countFrame ∧ submittedItems t₂ = []) ∨
        (env.isDuplicate s m = .ok false ∧ Exec (env.detect m) s.countFrame t₂ r s'))) := by
  unfold DetectorEnv.processFrame at h
  rw [exec_get_bind] at h
  split_ifs at h with hwarm
  · rw [exec_modify_bind] at h
    have hsilent : Silent (do
        let _ ← evaluate (env.text m.cameraId)
        acknowledge : DetectProc Image Unit) :=
      (Silent.evaluate _).bind (fun _ => Silent.acknowledge)
    exact Or.inl ⟨hwarm, hsilent.silent _ _ _ _ h⟩
  refine Or.inr ⟨Nat.not_lt.mp hwarm, ?_⟩
  rcases exec_bind.mp h with ⟨e, hcount, -⟩ | ⟨t₁, t₂, ⟨⟩, s₁, rfl, hcount, hrest⟩
  · cases (exec_countHeartbeat hcount).1
  obtain ⟨-, rfl, hitems⟩ := exec_countHeartbeat hcount
  refine ⟨t₁, t₂, rfl, hcount, by rw [submittedItems_append, hitems, List.nil_append], ?_⟩
  rcases exec_evaluate_bind.mp hrest with ⟨e, he, rfl, -, rfl⟩ | ⟨duplicate, hduplicate, hbranch⟩
  · exact Or.inl ⟨by simp [he], rfl, rfl⟩
  cases duplicate with
  | true =>
    have hsilent : Silent (do
        let _ ← evaluate (env.hashPrefix m.expectedHash)
        let _ ← evaluate (env.text m.cameraId)
        acknowledge : DetectProc Image Unit) :=
      (Silent.evaluate _).bind (fun _ => (Silent.evaluate _).bind (fun _ => Silent.acknowledge))
    exact Or.inl ⟨by simp [hduplicate], hsilent.silent _ _ _ _ hbranch⟩
  | false => exact Or.inr ⟨hduplicate, hbranch⟩

/-! ### The callback -/

/-- The local variables that the callback takes from the body. -/
def IsMessage (env : DetectorEnv Image) (body : List UInt8) (m : FrameLocals) : Prop :=
  env.readPayload body = .ok m.payload ∧
    m.cameraId = (getField (lit "camera") m.payload).getD (.str (lit "unknown")) ∧
    m.expectedHash = (getField (lit "hash") m.payload).getD (.str [])

/-- The callback processes its message, with the `except` branch behind it. -/
lemma callback_message {body : List UInt8} (hm : IsMessage env body m) :
    env.callback body = tryCatch (env.processFrame m) (fun _ => DetectorEnv.onError m.cameraId) := by
  obtain ⟨cameraId, key, keyed, expectedHash, payload⟩ := m
  obtain ⟨hread, hcamera, hhash⟩ := hm
  dsimp only at hread hcamera hhash
  subst hcamera hhash
  unfold DetectorEnv.callback
  rw [hread]
  dsimp only
  split
  · next e herror => cases keyed.symm.trans herror
  · next key' hkey =>
    obtain rfl := Except.ok.inj (keyed.symm.trans hkey)
    rfl

/-- The `except` branch neither submits nor touches the tables. -/
lemma exec_callback_message {body : List UInt8} (hm : IsMessage env body m)
    (h : Exec (env.callback body) s t r s') : ∃ t₁ t₂ r₁,
      t = t₁ ++ t₂ ∧ Exec (env.processFrame m) s t₁ r₁ s' ∧ submittedItems t₂ = [] := by
  rw [callback_message hm] at h
  rcases exec_tryCatch.mp h with ⟨u, h₁, rfl⟩ | ⟨t₁, t₂, e, s₁, rfl, h₁, h₂⟩
  · exact ⟨t, [], _, (List.append_nil t).symm, h₁, rfl⟩
  · obtain ⟨rfl, hitems⟩ := (Silent.onError _).silent _ _ _ _ h₂
    exact ⟨t₁, t₂, _, rfl, h₁, hitems⟩

/-- Without a message the state stays as it is. -/
lemma exec_callback_no_message {body : List UInt8} (hm : ∀ m, ¬ IsMessage env body m)
    (h : Exec (env.callback body) s t r s') : s' = s := by
  unfold DetectorEnv.callback at h
  split at h
  · exact ((Silent.onError _).silent _ _ _ _ h).1
  · next payload hread =>
    dsimp only at h
    split at h
    · exact ((Silent.onError _).silent _ _ _ _ h).1
    · next key hkey =>
      exact (hm ⟨_, key, hkey, (getField (lit "hash") payload).getD (.str []), payload⟩
        ⟨hread, rfl, rfl⟩).elim

end IntruderWatch.Proofs
