import IntruderWatch.AlertService
import IntruderWatch.Library.Histories
import IntruderWatch.Library.JsonDumps
import IntruderWatch.Proofs.DispatcherBuffer
import IntruderWatch.Proofs.PublishRetry

/-!
# Published alerts

Every body that the dispatcher hands to the broker belongs to a submitted item whose picture has just
been written, and the alert service reads from it the fields that the detector set: floats are
written with enough digits, and strings are escaped.
-/

namespace IntruderWatch.Proofs
open Py Interaction History

/-! ### The payload on both sides -/

section Payload

variable (p : AlertPayload)

/-- What the callback is to read from the payload. -/
def receivedAlert : Alert where
  cameraId := p.camera
  timestamp := .str p.timestamp
  filename := .str p.filename
  humanCount := p.humanCount
  maxConfidence := p.maxConfidence

/-- No string of the payload has a surrogate pair in two characters. -/
structure SendableText : Prop where
  camera : p.camera.WellFormed
  timestamp : NoPairs p.timestamp
  filename : NoPairs p.filename

variable {p}

lemma wellFormed_int_items (ns : List Integer) : itemsWellFormed (ns.map Json.int) := by
  induction ns with
  | nil => trivial
  | cons n ns ih => exact ⟨trivial, ih⟩

lemma depthItems_int (ns : List Integer) : depthItems (ns.map Json.int) = 0 := by
  induction ns with
  | nil => rfl
  | cons n ns ih =>
    rw [List.map_cons, depthItems, ih]
    rfl

lemma noPairs_lit {s : Str} (h : isAscii s = true) : NoPairs s :=
  (asciiText_of_isAscii h).noPairs

lemma boxJson_wellFormed (b : List Integer × Binary64) : (AlertPayload.boxJson b).WellFormed :=
  ⟨by simp [lit, ofChar], noPairs_lit (by decide), wellFormed_int_items b.1, noPairs_lit (by decide),
    trivial, trivial⟩

lemma boxJson_depth (b : List Integer × Binary64) : (AlertPayload.boxJson b).depth = 2 := by
  simp [AlertPayload.boxJson, Json.depth, depthFields, depthItems_int]

lemma boxes_wellFormed (boxes : List (List Integer × Binary64)) :
    itemsWellFormed (boxes.map AlertPayload.boxJson) := by
  induction boxes with
  | nil => trivial
  | cons b boxes ih => exact ⟨boxJson_wellFormed b, ih⟩

lemma boxes_depth (boxes : List (List Integer × Binary64)) :
    depthItems (boxes.map AlertPayload.boxJson) ≤ 2 := by
  induction boxes with
  | nil => exact Nat.zero_le 2
  | cons b boxes ih =>
    rw [List.map_cons, depthItems, boxJson_depth]
    exact max_le le_rfl ih

lemma toJson_wellFormed (h : SendableText p) : p.toJson.WellFormed :=
  ⟨by simp [lit, ofChar], noPairs_lit (by decide), h.camera, noPairs_lit (by decide), h.timestamp,
    noPairs_lit (by decide), h.filename, noPairs_lit (by decide), trivial, noPairs_lit (by decide),
    trivial, noPairs_lit (by decide), boxes_wellFormed p.boxes, trivial⟩

/-- The camera is hashable, hence no container. -/
lemma toJson_depth : p.toJson.depth ≤ 4 := by
  obtain ⟨key, hkey⟩ := p.hashable
  have hboxes := boxes_depth p.boxes
  simp only [AlertPayload.toJson, Json.depth, depthFields, Json.depth_of_key hkey]
  omega

/-- The alert service reads what the detector has put into the payload. -/
lemma readAlert_payload (env : AlertEnv) (hlimit : 4 ≤ env.loadsLimit) (h : SendableText p) :
    ∃ body, encode (dumps p.toJson) = .ok body ∧ env.readAlert body = .ok (receivedAlert p) := by
  obtain ⟨body, hbody⟩ := encode_dumps p.toJson
  have hloads := loads_dumps (toJson_wellFormed h) (toJson_depth.trans hlimit)
  refine ⟨body, hbody, ?_⟩
  rw [AlertEnv.readAlert, decode_encode hbody]
  simp only [bind, Except.bind, hloads]
  rfl

end Payload

/-! ### What an item publishes -/

section Item

variable {Image : Type} {quality : ℕ} {item : AlertItem Image} {link link' : BrokerLink}
  {t t₁ t₂ : DispatchTrace Image} {r : Except Exn Unit}

/-- Publish calls have the item's body, and stand behind the two calls that save the picture. -/
structure SavedFirst (quality : ℕ) (item : AlertItem Image) (t : DispatchTrace Image) : Prop where
  bodies : ∀ c ∈ t, PublishesBody (dumps item.payload.toJson) c
  saved : publishResults t = [] ∨ ∃ made written rest,
    t = ⟨.makedirs (dirname item.filename), made⟩ ::
      ⟨.imwrite item.filename item.frame quality, Except.ok written⟩ :: rest

lemma SavedFirst.quiet (hbodies : ∀ c ∈ t, PublishesBody (dumps item.payload.toJson) c)
    (hnone : publishResults t = []) : SavedFirst quality item t :=
  ⟨hbodies, Or.inl hnone⟩

/-- Calls that do not publish may follow. -/
lemma SavedFirst.append (h : SavedFirst quality item t₁)
    (h₂ : Quiescent (dumps item.payload.toJson) t₂) : SavedFirst quality item (t₁ ++ t₂) := by
  constructor
  · intro c hc
    exact (List.mem_append.mp hc).elim (h.bodies c) (h₂.bodies c)
  · rcases h.saved with hnone | ⟨made, written, rest, rfl⟩
    · exact Or.inl (by rw [publishResults_append, hnone, h₂.results, List.nil_append])
    · exact Or.inr ⟨made, written, rest ++ t₂, rfl⟩

lemma saveAndPublish_saved (h : Exec (saveAndPublish quality item) link t r link') :
    SavedFirst quality item t := by
  unfold saveAndPublish at h
  obtain ⟨made, t₁, rfl, h₁⟩ := exec_perform_bind.mp h
  rcases exec_evaluate_bind.mp h₁ with ⟨e, rfl, rfl, -, -⟩ | ⟨⟨⟩, rfl, h₂⟩
  · exact .quiet (by simp [PublishesBody]) rfl
  obtain ⟨written, t₂, rfl, h₃⟩ := exec_perform_bind.mp h₂
  rcases exec_evaluate_bind.mp h₃ with ⟨e, rfl, rfl, -, -⟩ | ⟨success, rfl, h₄⟩
  · exact .quiet (by simp [PublishesBody]) rfl
  have hbodies : ∀ c ∈ t₂, PublishesBody (dumps item.payload.toJson) c := by
    rcases exec_bind.mp h₄ with ⟨e, h₅, -⟩ | ⟨t₃, t₄, b, link₁, rfl, h₅, h₆⟩
    · exact (publishLoop_exec h₅).1
    · obtain ⟨rfl, -, -⟩ := exec_pure.mp h₆
      rw [List.append_nil]
      exact (publishLoop_exec h₅).1
  refine ⟨?_, Or.inr ⟨_, _, _, rfl⟩⟩
  intro c hc
  rcases List.mem_cons.mp hc with rfl | hc
  · trivial
  rcases List.mem_cons.mp hc with rfl | hc
  · trivial
  · exact hbodies c hc

/-- Neither `task_done` nor the pause publishes. -/
lemma workerBody_saved (h : Exec (workerBody quality item) link t r link') :
    SavedFirst quality item t := by
  have hinner : ∀ {t r link'}, Exec (withFinally (tryCatch (saveAndPublish quality item)
      (fun _ => pure ())) (do evaluate (← taskDone))) link t r link' → SavedFirst quality item t := by
    intro t r link' hexec
    obtain ⟨t₁, t₂, r₁, link₁, r₂, rfl, htry, hdone, -⟩ := exec_withFinally.mp hexec
    have hsave : SavedFirst quality item t₁ := by
      rcases exec_tryCatch.mp htry with ⟨a, hbody, -⟩ | ⟨t₃, t₄, e, link₂, rfl, hbody, hpass⟩
      · exact saveAndPublish_saved hbody
      · obtain ⟨rfl, -, -⟩ := exec_pure.mp hpass
        rw [List.append_nil]
        exact saveAndPublish_saved hbody
    obtain ⟨answer, t₃, rfl, heval⟩ := exec_perform_bind.mp hdone
    obtain ⟨rfl, -, -⟩ := exec_evaluate.mp heval
    exact hsave.append ⟨rfl, rfl, by simp [PublishesBody]⟩
  unfold workerBody at h
  rcases exec_tryCatch.mp h with ⟨u, hbody, -⟩ | ⟨t₁, t₂, e, link₁, rfl, hbody, hpause⟩
  · exact hinner hbody
  · obtain ⟨answer, rfl, -, -⟩ := exec_perform.mp hpause
    exact (hinner hbody).append ⟨rfl, rfl, by simp [PublishesBody]⟩

/-- At a publish call the picture has been written. -/
lemma SavedFirst.publish {channel : ℕ} {queue body : Str} {answer : Except Exn Unit}
    (h : SavedFirst quality item (t₁ ++ ⟨.basicPublish channel queue body, answer⟩ :: t₂)) :
    queue = alertQueue ∧ body = dumps item.payload.toJson ∧
      ∃ written, ⟨.imwrite item.filename item.frame quality, Except.ok written⟩ ∈ t₁ := by
  obtain ⟨hqueue, hbody⟩ := h.bodies ⟨.basicPublish channel queue body, answer⟩ (by simp)
  refine ⟨hqueue, hbody, ?_⟩
  rcases h.saved with hnone | ⟨made, written, rest, heq⟩
  · rw [publishResults_append, List.append_eq_nil_iff] at hnone
    cases answer with
    | ok u => cases hnone.2
    | error e => cases hnone.2
  · match t₁, heq with
    | [], heq => cases (List.cons.inj heq).1
    | [c], heq => cases (List.cons.inj (List.cons.inj heq).2).1
    | c :: d :: t₁, heq =>
      obtain ⟨rfl, -⟩ := List.cons.inj (List.cons.inj heq).2
      exact ⟨written, by simp⟩

end Item

/-! ### Runs of the two threads -/

section Runs

variable {Image : Type} {queueSize : ℤ} {quality : ℕ} {s s' : AlertDispatcher Image}
  {labels : List (DispatchLabel Image)} {label : DispatchLabel Image}

/-- The items that are somewhere between `submit` and the end of their turn. -/
def itemsHeld (s : AlertDispatcher Image) : List (AlertItem Image) :=
  (match s.producer with
    | .idle => []
    | .putting item | .evicting item | .discarding item => [item]) ++
  s.queue ++
  (match s.worker with
    | .busy item _ _ => [item]
    | _ => [])

def callsSoFar : WorkerThread Image → DispatchTrace Image
  | .busy _ past _ => past
  | _ => []

/-- What the threads hold has been submitted, and the calls for the current item have been made. -/
structure Traced (labels : List (DispatchLabel Image)) (s : AlertDispatcher Image) : Prop where
  submitted : ∀ item ∈ itemsHeld s, .submit item ∈ labels
  called : ∀ c ∈ callsSoFar s.worker, .called c ∈ labels

/-- A step holds on to no item but a submitted one. -/
lemma itemsHeld_step (h : DispatchStep queueSize quality s label s') {item : AlertItem Image}
    (hitem : item ∈ itemsHeld s') : item ∈ itemsHeld s ∨ label = .submit item := by
  unfold itemsHeld at hitem ⊢
  cases h with
  | submit hidle =>
    rw [hidle]
    simp only [List.mem_append, List.mem_singleton, List.nil_append] at hitem ⊢
    rcases hitem with (rfl | hitem) | hitem
    · exact Or.inr rfl
    · exact Or.inl (Or.inl hitem)
    · exact Or.inl (Or.inr hitem)
  | put hputting =>
    rw [hputting]
    simp only [List.mem_append, List.mem_singleton, List.nil_append] at hitem ⊢
    tauto
  | full hputting =>
    rw [hputting]
    exact Or.inl hitem
  | evict hevicting hqueue =>
    rw [hevicting, hqueue]
    simp only [List.mem_append, List.mem_cons] at hitem ⊢
    tauto
  | empty hevicting =>
    rw [hevicting]
    exact Or.inl hitem
  | discard hdiscarding =>
    rw [hdiscarding]
    left
    split at hitem
    · next heq =>
      simp only [List.mem_append, List.mem_singleton, List.not_mem_nil, false_or] at hitem ⊢
      tauto
    · next heq =>
      dsimp only at heq
      split_ifs at heq
      obtain rfl := ProducerState.putting.inj heq
      exact hitem
    · next heq =>
      dsimp only at heq
      split_ifs at heq
    · next heq =>
      dsimp only at heq
      split_ifs at heq
  | take hwaiting hqueue =>
    rw [hwaiting, hqueue]
    simp only [List.mem_append, List.mem_cons, List.append_nil] at hitem ⊢
    tauto
  | call hbusy =>
    rw [hbusy]
    exact Or.inl hitem
  | taskDone hbusy =>
    rw [hbusy]
    exact Or.inl hitem
  | @returned item' past result link hbusy =>
    rw [hbusy]
    left
    rw [List.mem_append] at hitem ⊢
    rcases hitem with hitem | hitem
    · exact Or.inl hitem
    · cases result with
      | ok u => cases hitem
      | error e => cases hitem

lemma callsSoFar_step (h : DispatchStep queueSize quality s label s') {c : DispatchEvent Image}
    (hc : c ∈ callsSoFar s'.worker) : c ∈ callsSoFar s.worker ∨ label = .called c := by
  cases h with
  | submit | put | full | evict | empty | discard => exact Or.inl hc
  | take => cases hc
  | call hbusy =>
    rw [hbusy]
    exact (List.mem_append.mp hc).imp_right (fun hmem => by rw [List.mem_singleton.mp hmem])
  | taskDone hbusy =>
    rw [hbusy]
    exact (List.mem_append.mp hc).imp_right (fun hmem => by rw [List.mem_singleton.mp hmem])
  | @returned item past result link hbusy =>
    cases result with
    | ok u => cases hc
    | error e => cases hc

lemma traced_run (h : DispatchRun queueSize quality labels s) : Traced labels s := by
  apply h.invariant Traced
  · constructor
    · intro item hitem
      cases hitem
    · intro c hc
      cases hc
  · intro past s label s' hs hstep
    constructor
    · intro item hitem
      rcases itemsHeld_step hstep hitem with hitem | rfl
      · exact List.mem_append_left _ (hs.submitted item hitem)
      · exact List.mem_append_right _ (List.mem_singleton.mpr rfl)
    · intro c hc
      rcases callsSoFar_step hstep hc with hc | rfl
      · exact List.mem_append_left _ (hs.called c hc)
      · exact List.mem_append_right _ (List.mem_singleton.mpr rfl)

/-- What stands behind a call that publishes: an item that was submitted, whose picture has been
written, and whose fields the alert service reads from the body. -/
def PublishLaw (quality : ℕ) (env : AlertEnv) (past : List (DispatchLabel Image)) :
    DispatchLabel Image → Prop
  | .called ⟨.basicPublish _ queue text, _⟩ => ∃ item, .submit item ∈ past ∧ queue = alertQueue ∧
      text = dumps item.payload.toJson ∧
      (∃ written, .called ⟨.imwrite item.filename item.frame quality, Except.ok written⟩ ∈ past) ∧
      (SendableText item.payload → ∃ body, encode text = .ok body ∧
        env.readAlert body = .ok (receivedAlert item.payload))
  | _ => True

lemma publishLaw_step {env : AlertEnv} (hlimit : 4 ≤ env.loadsLimit)
    (h : DispatchRun queueSize quality labels s) (hstep : DispatchStep queueSize quality s label s') :
    PublishLaw quality env labels label := by
  have htraced := traced_run h
  have hfollows := (follows_run h).1
  cases hstep with
  | @call item past op answer k hbusy hop =>
    cases op with
    | basicPublish channel queue text =>
      rw [hbusy] at hfollows
      obtain ⟨link, hreach⟩ := hfollows
      obtain ⟨t, ⟨r, link'⟩, hrest⟩ := (k answer).exists_runs
      have hexec : Exec (workerBody quality item) link
          (past ++ ⟨.basicPublish channel queue text, answer⟩ :: t) r link' := hreach.runs hrest.call
      obtain ⟨rfl, rfl, written, hwritten⟩ := (workerBody_saved hexec).publish
      refine ⟨item, ?_, rfl, rfl, ⟨written, ?_⟩, readAlert_payload env hlimit⟩
      · apply htraced.submitted
        rw [itemsHeld, hbusy]
        simp
      · apply htraced.called
        rw [hbusy]
        exact hwritten
    | _ => trivial
  | _ => trivial

/-- In every interleaving of the two threads, each body handed to the broker is read by the alert
service as the alert of a submitted item whose picture was written before. -/
theorem published_alerts_read (env : AlertEnv) (hlimit : 4 ≤ env.loadsLimit)
    (h : DispatchRun queueSize quality labels s) : Along (PublishLaw quality env) labels := by
  induction h with
  | nil => exact along_nil _
  | snoc h hstep ih => exact along_snoc_iff.mpr ⟨ih, publishLaw_step hlimit h hstep⟩

end Runs

/-! ### A published alert -/

section Published

/-- The calls from `makedirs` to the publish on a fresh channel. -/
def publishCalls : DispatchTrace Unit :=
  [⟨.makedirs (dirname diskItem.filename), Except.ok ()⟩,
    ⟨.imwrite diskItem.filename () 85, Except.ok true⟩,
    ⟨.blockingConnection, Except.ok 0⟩, ⟨.openChannel 0, Except.ok 1⟩,
    ⟨.queueDeclare 1 alertQueue, Except.ok ()⟩,
    ⟨.basicPublish 1 alertQueue (dumps diskItem.payload.toJson), Except.ok ()⟩]

lemma publishCalls_run : ∃ s,
    DispatchRun 500 85 ([.submit diskItem, .put diskItem, .take diskItem] ++
      publishCalls.map .called) s := by
  have hsubmit := Transition.Run.single
    (show DispatchStep 500 85 (AlertDispatcher.start Unit) (.submit diskItem) _ from .submit rfl)
  have hput := hsubmit.snoc (show DispatchStep 500 85 _ (.put diskItem) _ from
    .put rfl (by simp [queueFull, AlertDispatcher.start]))
  have htake := hput.snoc (show DispatchStep 500 85 _ (.take diskItem) _ from .take rfl rfl)
  have hmakedirs := htake.snoc (show DispatchStep 500 85 _
    (.called ⟨.makedirs (dirname diskItem.filename), Except.ok ()⟩) _ from .call rfl (by simp))
  have himwrite := hmakedirs.snoc (show DispatchStep 500 85 _
    (.called ⟨.imwrite diskItem.filename () 85, Except.ok true⟩) _ from .call rfl (by simp))
  have hconnect := himwrite.snoc (show DispatchStep 500 85 _
    (.called ⟨.blockingConnection, Except.ok 0⟩) _ from .call rfl (by simp))
  have hchannel := hconnect.snoc (show DispatchStep 500 85 _
    (.called ⟨.openChannel 0, Except.ok 1⟩) _ from .call rfl (by simp))
  have hdeclare := hchannel.snoc (show DispatchStep 500 85 _
    (.called ⟨.queueDeclare 1 alertQueue, Except.ok ()⟩) _ from .call rfl (by simp))
  have hpublish := hdeclare.snoc (show DispatchStep 500 85 _
    (.called ⟨.basicPublish 1 alertQueue (dumps diskItem.payload.toJson), Except.ok ()⟩) _ from
    .call rfl (by simp))
  exact ⟨_, hpublish⟩

theorem published_alerts_read_onDisk :
    Along (PublishLaw 85 defaultAlertEnv) ([.submit diskItem, .put diskItem, .take diskItem] ++
      publishCalls.map .called) := by
  obtain ⟨s, hrun⟩ := publishCalls_run
  exact published_alerts_read defaultAlertEnv (by simp [defaultAlertEnv]) hrun

end Published

end IntruderWatch.Proofs
