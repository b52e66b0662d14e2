import IntruderWatch.Proofs.DetectorDecisions

/-!
# One acknowledgement for every frame message

A branch of the detector's callback acknowledges as its last call, so an exception of the branch
leaves the message unacknowledged for the `except` branch. What decoding, the model and the drawing
of the boxes raise comes out of `imdecode` and `model`, between which and the alert nothing happens.
-/

namespace IntruderWatch.Proofs
open Py Interaction

variable {Image : Type}

abbrev DetectEvent (Image : Type) := (op : DetectCall Image) × DetectAns op

def isAck : DetectEvent Image → Bool
  | ⟨.basicAck, _⟩ => true
  | _ => false

def ackFails : DetectEvent Image → Bool
  | ⟨.basicAck, .error _⟩ => true
  | _ => false

def ackCalls (t : DetectTrace Image) : ℕ := t.countP isAck

/-- No acknowledgement of the trace raises. -/
def AcksSucceed (t : DetectTrace Image) : Prop := ∀ c ∈ t, ackFails c = false

/-! ### Statements that acknowledge -/

def NoAck : DetectCall Image → Prop
  | .basicAck => False
  | _ => True

/-- Neither an acknowledgement nor an error. -/
def IsWork : DetectCall Image → Prop
  | .basicAck | .errorsTotal _ _ => False
  | _ => True

lemma IsWork.noAck {op : DetectCall Image} (h : IsWork op) : NoAck op := by
  cases op with
  | basicAck => exact h
  | _ => trivial

lemma ackCalls_append (t₁ t₂ : DetectTrace Image) : ackCalls (t₁ ++ t₂) = ackCalls t₁ + ackCalls t₂ :=
  List.countP_append

lemma AcksSucceed.right {t₁ t₂ : DetectTrace Image} (h : AcksSucceed (t₁ ++ t₂)) : AcksSucceed t₂ :=
  fun c hc => h c (List.mem_append_right t₁ hc)

lemma AcksSucceed.left {t₁ t₂ : DetectTrace Image} (h : AcksSucceed (t₁ ++ t₂)) : AcksSucceed t₁ :=
  fun c hc => h c (List.mem_append_left t₂ hc)

lemma ackCalls_eq_zero {t : DetectTrace Image} (h : ∀ c ∈ t, NoAck c.1) : ackCalls t = 0 := by
  rw [ackCalls, List.countP_eq_zero]
  rintro ⟨op, answer⟩ hc hack
  cases op with
  | basicAck => exact h _ hc
  | _ => cases hack

/-- The statement acknowledges once if it returns, and not at all if it raises. -/
structure AcksOnReturn (x : DetectProc Image Unit) : Prop where
  spec : ∀ s t r s', Exec x s t r s' → AcksSucceed t → ackCalls t = if r.isOk then 1 else 0

namespace AcksOnReturn

theorem acknowledge : AcksOnReturn (acknowledge : DetectProc Image Unit) := by
  constructor
  intro s t r s' h hacks
  obtain ⟨answer, t₁, rfl, h₁⟩ := exec_perform_bind.mp h
  obtain ⟨rfl, rfl, -⟩ := exec_evaluate.mp h₁
  cases r with
  | ok u => rfl
  | error e => cases hacks _ List.mem_cons_self

theorem bind {α : Type} {x : DetectProc Image α} {f : α → DetectProc Image Unit} (hx : Uses NoAck x)
    (hf : ∀ a, AcksOnReturn (f a)) : AcksOnReturn (x >>= f) := by
  constructor
  intro s t r s' h hacks
  rcases exec_bind.mp h with ⟨e, h₁, rfl⟩ | ⟨t₁, t₂, a, s₁, rfl, h₁, h₂⟩
  · exact ackCalls_eq_zero (hx.calls _ _ _ _ h₁)
  · rw [ackCalls_append, ackCalls_eq_zero (hx.calls _ _ _ _ h₁), zero_add]
    exact (hf a).spec _ _ _ _ h₂ hacks.right

theorem evaluate_bind {α : Type} {v : Except Exn α} {f : α → DetectProc Image Unit}
    (hf : ∀ a, AcksOnReturn (f a)) : AcksOnReturn (evaluate v >>= f) :=
  bind (Uses.evaluate v) hf

end AcksOnReturn

/-! ### The callback -/

section Callback

variable (env : DetectorEnv Image) (m : FrameLocals)

lemma uses_raiseAlert (frame : Image) (boxes : Detections) :
    Uses IsWork (env.raiseAlert m frame boxes) := by
  unfold DetectorEnv.raiseAlert
  split
  · exact Uses.pure ()
  · next b rest _ =>
    have hrest : Uses IsWork (do
        let timestamp := (← datetimeNow).text
        let filename ← evaluate (env.detectionFile m timestamp)
        submit ⟨frame, filename, DetectorEnv.alertPayload m timestamp filename boxes b rest⟩
        humansDetected m.cameraId boxes.val.length) := by
      apply Uses.perform_bind trivial
      intro time
      apply Uses.evaluate_bind
      intro filename
      exact Uses.perform_bind trivial (fun _ => Uses.perform trivial)
    split_ifs
    · exact (Uses.modify _).bind (fun _ => hrest)
    · exact hrest

lemma uses_countHeartbeat : Uses IsWork (DetectorEnv.countHeartbeat : DetectProc Image Unit) := by
  unfold DetectorEnv.countHeartbeat
  apply (Uses.modify _).bind
  intro _
  apply Uses.get.bind
  intro s
  split_ifs
  · exact Uses.perform trivial
  · exact Uses.pure ()

lemma ackCalls_detect : AcksOnReturn (env.detect m) := by
  unfold DetectorEnv.detect
  apply AcksOnReturn.evaluate_bind
  intro image
  apply AcksOnReturn.evaluate_bind
  intro byteData
  apply AcksOnReturn.evaluate_bind
  intro decoded
  cases decoded with
  | none =>
    apply AcksOnReturn.evaluate_bind
    intro _
    exact AcksOnReturn.bind (Uses.perform trivial) (fun _ => AcksOnReturn.acknowledge)
  | some frame =>
    apply AcksOnReturn.evaluate_bind
    intro boxes
    apply AcksOnReturn.evaluate_bind
    intro drawn
    apply AcksOnReturn.bind ((uses_raiseAlert env m drawn boxes).mono (fun _ => IsWork.noAck))
    intro _
    exact AcksOnReturn.bind (Uses.perform trivial) (fun _ => AcksOnReturn.acknowledge)

lemma ackCalls_processFrame : AcksOnReturn (env.processFrame m) := by
  unfold DetectorEnv.processFrame
  apply AcksOnReturn.bind Uses.get
  intro s
  split_ifs
  · apply AcksOnReturn.bind (Uses.modify _)
    intro _
    apply AcksOnReturn.evaluate_bind
    intro _
    exact AcksOnReturn.acknowledge
  · apply AcksOnReturn.bind (uses_countHeartbeat.mono (fun _ => IsWork.noAck))
    intro _
    apply AcksOnReturn.evaluate_bind
    intro duplicate
    cases duplicate with
    | true =>
      apply AcksOnReturn.evaluate_bind
      intro _
      apply AcksOnReturn.evaluate_bind
      intro _
      exact AcksOnReturn.acknowledge
    | false => exact ackCalls_detect env m

variable {env} {s s' : DetectorState} {t : DetectTrace Image} {r : Except Exn Unit}

/-- The `except` branch returns whatever its acknowledgement does. -/
lemma onError_exec {cameraId : Json} (h : Exec (DetectorEnv.onError cameraId) s t r s') :
    r = .ok () ∧ ackCalls t = 1 := by
  unfold DetectorEnv.onError at h
  obtain ⟨u, t₁, rfl, h₁⟩ := exec_perform_bind.mp h
  obtain ⟨answer, t₂, rfl, h₂⟩ := exec_perform_bind.mp h₁
  obtain ⟨rfl, rfl, -⟩ := exec_pure.mp h₂
  exact ⟨rfl, rfl⟩

/-- For every body, every state and every outcome the callback returns, and acknowledges exactly once
unless an acknowledgement raises. -/
theorem frame_acked_once {body : List UInt8} (h : Exec (env.callback body) s t r s') :
    r = .ok () ∧ (AcksSucceed t → ackCalls t = 1) := by
  unfold DetectorEnv.callback at h
  split at h
  · obtain ⟨hr, hacks⟩ := onError_exec h
    exact ⟨hr, fun _ => hacks⟩
  · dsimp only at h
    split at h
    · obtain ⟨hr, hacks⟩ := onError_exec h
      exact ⟨hr, fun _ => hacks⟩
    · next payload _ key hkey =>
      rcases exec_tryCatch.mp h with ⟨u, hbody, rfl⟩ | ⟨t₁, t₂, e, s₁, rfl, hbody, hcatch⟩
      · exact ⟨rfl, (ackCalls_processFrame env _).spec _ _ _ _ hbody⟩
      · obtain ⟨rfl, hacks⟩ := onError_exec hcatch
        refine ⟨rfl, fun hsucceed => ?_⟩
        have hbefore := (ackCalls_processFrame env _).spec _ _ _ _ hbody hsucceed.left
        rw [ackCalls_append, hbefore, hacks]
        rfl

end Callback

/-- The calls for bytes that are no UTF-8 text. -/
def garbledCalls : DetectTrace Unit :=
  [⟨.errorsTotal (.str (lit "unknown")) "exception", ()⟩, ⟨.basicAck, Except.ok ()⟩]

lemma garbled_exec : Exec (onePersonEnv.callback [255]) .start garbledCalls (.ok ()) .start :=
  .call <| .call <| .ret _

theorem frame_acked_once_garbled : ackCalls garbledCalls = 1 := by
  apply (frame_acked_once garbled_exec).2
  simp [AcksSucceed, garbledCalls, ackFails]

end IntruderWatch.Proofs
