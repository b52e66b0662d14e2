import IntruderWatch.Proofs.CaptureAlignment
import IntruderWatch.Proofs.DetectorDecisions

/-!
# The detector does not tell the two capturers apart

The Go capturer writes its message without spaces and with two more fields, the Python capturer by
`json.dumps`. The callback reads the same camera, hash and picture from both, so that a detector fed
by any mixture of the two makes the runs of one that is fed by the Go capturer alone.
-/

namespace IntruderWatch.Proofs
open Py Interaction PyCapturer

variable {Image : Type} {env : DetectorEnv Image} {f : CapturedFrame}

/-! ### What the callback uses of a message -/

/-- Of the payload the callback uses the camera, the hash and the image. -/
lemma processFrame_congr {m m' : FrameLocals} (hcamera : m.cameraId = m'.cameraId)
    (hhash : m.expectedHash = m'.expectedHash)
    (himage : subscript (lit "image") m.payload = subscript (lit "image") m'.payload) :
    env.processFrame m = env.processFrame m' := by
  obtain ⟨cameraId, key, keyed, expectedHash, payload⟩ := m
  obtain ⟨cameraId', key', keyed', expectedHash', payload'⟩ := m'
  dsimp only at hcamera hhash himage
  subst hcamera hhash
  obtain rfl := Except.ok.inj (keyed.symm.trans keyed')
  have hdetect : env.detect ⟨cameraId, key, keyed, expectedHash, payload⟩ =
      env.detect ⟨cameraId, key, keyed, expectedHash, payload'⟩ := by
    unfold DetectorEnv.detect
    rw [himage]
    rfl
  unfold DetectorEnv.processFrame
  rw [hdetect]
  rfl

lemma callback_congr {body body' : List UInt8} {m m' : FrameLocals} (hm : IsMessage env body m)
    (hm' : IsMessage env body' m') (hcamera : m.cameraId = m'.cameraId)
    (hhash : m.expectedHash = m'.expectedHash)
    (himage : subscript (lit "image") m.payload = subscript (lit "image") m'.payload) :
    env.callback body = env.callback body' := by
  rw [callback_message hm, callback_message hm', processFrame_congr hcamera hhash himage, hcamera]

/-! ### The message of the Python capturer -/

/-- The message of the Python capturer for the picture of the frame. -/
structure PublishedBy (cenv : CapturerEnv) (f : CapturedFrame) (body : List UInt8) : Prop where
  camera : f.camera.val = cenv.channel.val
  digest : f.digest = cenv.sha256 f.jpegBytes
  message : IsMessageOf cenv f.jpegBytes body

lemma asciiBytes_noPairs {b : List UInt8} (h : ∀ c ∈ b, c.toNat < 128) : NoPairs (asciiText b) :=
  Py.AsciiText.noPairs (asciiText_of_bytes h)

lemma payload_wellFormed (cenv : CapturerEnv) (byteData : List UInt8) :
    (cenv.payload byteData).WellFormed := by
  have hkeys : [lit "camera", lit "hash", lit "image"].Nodup := by decide
  have hlit : ∀ s : Str, s.all (fun c => c.val < 128) = true → NoPairs s := by
    intro s hs
    apply Py.AsciiText.noPairs
    intro c hc
    simpa using List.all_eq_true.mp hs c hc
  refine ⟨hkeys, hlit _ (by decide), trivial, hlit _ (by decide), ?_, hlit _ (by decide), ?_, trivial⟩
  · apply asciiBytes_noPairs
    intro c hc
    have hrange := hexEncode_mem hc
    omega
  · apply asciiBytes_noPairs
    intro c hc
    have hrange := Base64.encode_range hc
    omega

lemma depth_payload (cenv : CapturerEnv) (byteData : List UInt8) : (cenv.payload byteData).depth = 1 := by
  simp [CapturerEnv.payload, Json.depth, depthFields]

lemma PublishedBy.callback_eq {cenv : CapturerEnv} {body : List UInt8} (hlimit : 2 ≤ env.loadsLimit)
    (h : PublishedBy cenv f body) : env.callback body = env.callback (marshal f.payload) := by
  have hdepth : (cenv.payload f.jpegBytes).depth ≤ env.loadsLimit := by
    rw [depth_payload]
    omega
  have hloads := loads_decode_dumps (payload_wellFormed cenv f.jpegBytes) hdepth h.message
  have hread : env.readPayload body = .ok [(lit "camera", .int cenv.channel),
      (lit "hash", .str (asciiText (hexEncode (cenv.sha256 f.jpegBytes)))),
      (lit "image", .str (asciiText (Base64.encode f.jpegBytes)))] := by
    obtain ⟨text, htext, hvalue⟩ : ∃ text, decode body = .ok text ∧
        loads env.loadsLimit text = .ok (cenv.payload f.jpegBytes) := by
      cases htext : decode body with
      | error e =>
        rw [htext] at hloads
        cases hloads
      | ok text =>
        rw [htext] at hloads
        exact ⟨text, rfl, hloads⟩
    rw [DetectorEnv.readPayload, htext]
    simp only [bind, Except.bind, hvalue]
    rfl
  have hchannel : goInteger f.camera = cenv.channel := Subtype.ext h.camera
  let m : FrameLocals :=
    { frameLocals f with
      payload := [(lit "camera", .int cenv.channel),
        (lit "hash", .str (asciiText (hexEncode (cenv.sha256 f.jpegBytes)))),
        (lit "image", .str (asciiText (Base64.encode f.jpegBytes)))] }
  have hm : IsMessage env body m := by
    refine ⟨hread, ?_, ?_⟩
    · change Json.int (goInteger f.camera) = Json.int cenv.channel
      rw [hchannel]
    · change Json.str (asciiText (hexEncode f.digest)) = _
      rw [h.digest]
      rfl
  exact callback_congr hm (frameLocals_isMessage hlimit f) rfl rfl (subscript_image f).symm

/-! ### Runs -/

/-- A message for the frame, of either capturer. -/
def MessageFor (f : CapturedFrame) (body : List UInt8) : Prop :=
  body = marshal f.payload ∨ ∃ cenv, PublishedBy cenv f body

/-- The callback of a delivery, whatever the message. -/
def MixedStep (env : DetectorEnv Image) (s : DetectorState) (e : FrameEvent Image × List UInt8)
    (s' : DetectorState) : Prop :=
  ∃ result, Exec (env.callback e.2) s e.1.calls result s'

lemma mixedStep_iff (hlimit : 2 ≤ env.loadsLimit) {s s' : DetectorState}
    {e : FrameEvent Image × List UInt8} (h : MessageFor e.1.frame e.2) :
    MixedStep env s e s' ↔ DetectorStep env s e.1 s' := by
  rcases h with hbody | ⟨cenv, hpublished⟩
  · unfold MixedStep
    rw [hbody]
    exact Iff.rfl
  · unfold MixedStep
    rw [hpublished.callback_eq hlimit]
    exact Iff.rfl

/-- Whichever capturer the messages come from, the detector makes the runs of one that is fed by the Go
capturer. -/
theorem mixed_runs (hlimit : 2 ≤ env.loadsLimit) {events : List (FrameEvent Image × List UInt8)}
    {s : DetectorState} (hmessages : ∀ e ∈ events, MessageFor e.1.frame e.2) :
    Transition.Run (MixedStep env) DetectorState.start events s ↔
      DetectorRun env (events.map Prod.fst) s :=
  Transition.Run.relabel Prod.fst (fun e he _ _ => mixedStep_iff hlimit (hmessages e he))

/-- A frame of the Python capturer, and one of the Go capturer. -/
theorem mixed_runs_both : ∃ (body : List UInt8) (events : List (FrameEvent Unit × List UInt8))
    (s : DetectorState), PublishedBy pixelEnv (stillFrame firstCamera) body ∧
      events.map (fun e => (e.1.frame, e.2)) = [(stillFrame firstCamera, body),
        (stillFrame secondCamera, marshal (stillFrame secondCamera).payload)] ∧
      Transition.Run (MixedStep onePersonEnv) DetectorState.start events s := by
  obtain ⟨body, hbody⟩ := encode_dumps (pixelEnv.payload [255, 216])
  have hpublished : PublishedBy pixelEnv (stillFrame firstCamera) body := ⟨rfl, rfl, hbody⟩
  obtain ⟨run, s, hrun, hframes⟩ :=
    exists_detectorRun onePersonEnv [stillFrame firstCamera, stillFrame secondCamera]
  obtain ⟨first, rest, rfl, hfirst, hrest⟩ := List.map_eq_cons_iff.mp hframes
  obtain ⟨second, rest, rfl, hsecond, hnil⟩ := List.map_eq_cons_iff.mp hrest
  obtain rfl := List.map_eq_nil_iff.mp hnil
  have hmessages : ∀ e ∈ [(first, body), (second, marshal (stillFrame secondCamera).payload)],
      MessageFor e.1.frame e.2 := by
    intro e he
    simp only [List.mem_cons, List.not_mem_nil, or_false] at he
    rcases he with rfl | rfl
    · exact Or.inr ⟨pixelEnv, hfirst ▸ hpublished⟩
    · exact Or.inl (hsecond ▸ rfl)
  have hlimit : 2 ≤ onePersonEnv.loadsLimit := show 2 ≤ 1000 by norm_num
  refine ⟨body, _, s, hpublished, ?_, (mixed_runs hlimit hmessages).mpr hrun⟩
  rw [List.map_cons, List.map_singleton, hfirst, hsecond]

end IntruderWatch.Proofs
