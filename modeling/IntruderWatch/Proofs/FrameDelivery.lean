import IntruderWatch.Proofs.FrameOwnership

/-!
# Messages carry the submitted frames

The ledger of a run is read off its labels alone: the bytes read since the last `AcquireFrame`,
the stamp the loop decided on, the frames accepted by `Submit` and the messages that reached the
broker. Ownership gives that the items in flight still hold exactly what the ledger says.
-/

namespace IntruderWatch.Proofs
open Pipeline Transition

/-! ### The ledger of a run -/

/-- A frame accepted by `Submit`: the pixels read for it and what the loop decided about it. -/
structure Submission where
  pixels : Bytes
  stamp : FrameStamp

structure Ledger where
  pixels : Bytes
  stamp : Option FrameStamp
  submitted : List Submission
  published : List Bytes

namespace Ledger

def start : Ledger where
  pixels := []
  stamp := none
  submitted := []
  published := []

def note (l : Ledger) : PipelineEvent × Observation → Ledger
  | (.acquire _ _, _) => { l with pixels := [] }
  | (.readChunk chunk, _) => { l with pixels := l.pixels ++ chunk }
  | (_, .dispatched stamp) => { l with stamp := some stamp }
  | (_, .submitted) =>
    { l with submitted := l.submitted ++ (l.stamp.map (fun stamp => ⟨l.pixels, stamp⟩)).toList }
  | (_, .published message) => { l with published := l.published ++ [message] }
  | _ => l

end Ledger

def ledger (trace : List (PipelineEvent × Observation)) : Ledger :=
  trace.foldl Ledger.note Ledger.start

/-! ### Messages -/

/-- The message for a frame with these pixels, box and post-roll flag. -/
def messageOf (cfg : Config) (enc : Encoders) (pixels : Bytes) (motionBox : Option Box)
    (isPostRoll : Bool) : Option Bytes :=
  match enc.jpeg (planesOf cfg pixels) with
  | .error _ => none
  | .ok jpegBytes => (enc.marshal (framePayload cfg enc jpegBytes motionBox isPostRoll)).toOption

def Submission.message (cfg : Config) (enc : Encoders) (f : Submission) : Option Bytes :=
  messageOf cfg enc f.pixels f.stamp.motionBox f.stamp.isPostRoll

/-- The item holds the frame. -/
def Carries (item : FrameItem) (f : Submission) : Prop :=
  item.data = f.pixels ∧ item.motionBox = f.stamp.motionBox ∧ item.isPostRoll = f.stamp.isPostRoll

/-! ### Invariants -/

/-- The item that the worker still has to publish. -/
def unfinished : WorkerState → List ℕ
  | .encoding item _ | .building item _ | .publishing item _ => [item]
  | .idle | .releasing _ | .stopped => []

/-- The items accepted by `Submit` and not yet dealt with, in order. -/
def inflight (s : Pipeline) : List ℕ :=
  unfinished s.worker ++ s.frameChan

structure MainIntact (cfg : Config) (l : Ledger) (s : Pipeline) : Prop where
  full : ∀ r < s.allocated, FullFrame cfg (s.heap r).data
  reading : ∀ item now n, s.main = .reading item now n →
    n = l.pixels.length ∧ (s.heap item).data.take n = l.pixels
  captured : ∀ item now, s.main = .captured item now → (s.heap item).data = l.pixels
  submitting : ∀ item now, s.main = .submitting item now → ∃ stamp, l.stamp = some stamp ∧
    Carries (s.heap item) ⟨l.pixels, stamp⟩ ∧ stamp.sequence = s.loop.seqCounter ∧
    ∀ f ∈ l.submitted, f.stamp.sequence < s.loop.seqCounter
  ordered : (l.submitted.map (fun f => f.stamp.sequence)).Pairwise (fun i j => i < j)
  counter : ∀ f ∈ l.submitted, f.stamp.sequence ≤ s.loop.seqCounter
  pixels : ∀ f ∈ l.submitted, FullFrame cfg f.pixels

structure WorkerIntact (cfg : Config) (enc : Encoders) (s : Pipeline) : Prop where
  encoding : ∀ item read, s.worker = .encoding item read →
    read = (s.heap item).data.take read.length
  building : ∀ item jpegBytes, s.worker = .building item jpegBytes →
    enc.jpeg (planesOf cfg (s.heap item).data) = .ok jpegBytes
  publishing : ∀ item message, s.worker = .publishing item message →
    messageOf cfg enc (s.heap item).data (s.heap item).motionBox (s.heap item).isPostRoll =
      some message

/-- The published messages are those of some of the frames, in order. -/
def Delivered (cfg : Config) (enc : Encoders) (published : List Bytes) (done : List Submission) :
    Prop :=
  ∃ frames : List Submission, frames.Sublist done ∧
    frames.map (Submission.message cfg enc) = published.map some

def Delivery (cfg : Config) (enc : Encoders) (l : Ledger) (s : Pipeline) : Prop :=
  ∃ done waiting, l.submitted = done ++ waiting ∧
    List.Forall₂ Carries ((inflight s).map s.heap) waiting ∧ Delivered cfg enc l.published done

section

variable {cfg : Config} {enc : Encoders} {minInterval : Duration} {s s' : Pipeline}
  {e : PipelineEvent} {o : Observation} {l : Ledger}

lemma unfinished_subset_held {w : WorkerState} {r : ℕ} (hr : r ∈ unfinished w) :
    r ∈ workerHeld w := by
  cases w <;> simp_all [unfinished, workerHeld]

/-- No move writes to an item in flight. -/
lemma inflight_unchanged (howned : Owned s) (hmove : Moves cfg enc minInterval s e o s') {r : ℕ}
    (hr : r ∈ inflight s) : s'.heap r = s.heap r := by
  rw [inflight, List.mem_append] at hr
  have hapart : ∀ item ∈ mainHeld s.main, r ≠ item := by
    intro item hitem hri
    obtain ⟨-, -, hchan, hworker⟩ := howned.main_alone hitem
    rw [← hri] at hchan hworker
    rcases hr with hr | hr
    · exact hworker (unfinished_subset_held hr)
    · exact hchan hr
  cases hmove with
  | @acquirePooled item now hm hpool =>
    obtain ⟨-, hchan, hworker⟩ := howned.pool_alone hpool
    apply Function.update_of_ne
    rintro rfl
    rcases hr with hr | hr
    · exact hworker (unfinished_subset_held hr)
    · exact hchan hr
  | @acquireFresh now data hm hdata =>
    apply Function.update_of_ne
    rintro rfl
    have hone := howned.once s.allocated
    rw [if_neg (lt_irrefl _)] at hone
    rcases hr with hr | hr
    · have hpos := List.count_pos_iff.mpr (unfinished_subset_held hr)
      omega
    · have hpos := List.count_pos_iff.mpr hr
      omega
  | readChunk hm | dispatch hm | mainRelease hm =>
    apply Function.update_of_ne
    apply hapart
    simp [hm, mainHeld]
  | @workerRelease item hw =>
    apply Function.update_of_ne
    rintro rfl
    rcases hr with hr | hr
    · simp [hw, unfinished] at hr
    · exact (howned.worker_alone (by simp [hw, workerHeld])).2.2.1 hr
  | _ => rfl

lemma map_inflight (howned : Owned s) (hmove : Moves cfg enc minInterval s e o s') :
    (inflight s).map s'.heap = (inflight s).map s.heap :=
  List.map_congr_left (fun _ hr => inflight_unchanged howned hmove hr)

/-! ### The worker's item -/

lemma WorkerIntact.same (h : WorkerIntact cfg enc s) (howned : Owned s)
    (hmove : Moves cfg enc minInterval s e o s') (hw : s'.worker = s.worker) :
    WorkerIntact cfg enc s' := by
  have hheap : ∀ r ∈ unfinished s.worker, s'.heap r = s.heap r := fun r hr =>
    inflight_unchanged howned hmove (List.mem_append_left _ hr)
  constructor
  · intro item read hread
    rw [hw] at hread
    rw [hheap item (by simp [hread, unfinished])]
    exact h.encoding item read hread
  · intro item jpegBytes hjpeg
    rw [hw] at hjpeg
    rw [hheap item (by simp [hjpeg, unfinished])]
    exact h.building item jpegBytes hjpeg
  · intro item message hmessage
    rw [hw] at hmessage
    rw [hheap item (by simp [hmessage, unfinished])]
    exact h.publishing item message hmessage

/-- A worker without an unfinished item satisfies the invariant. -/
lemma workerIntact_of_unfinished (hw : unfinished s.worker = []) : WorkerIntact cfg enc s := by
  constructor
  · intro item read hread
    simp [hread, unfinished] at hw
  · intro item jpegBytes hjpeg
    simp [hjpeg, unfinished] at hw
  · intro item message hmessage
    simp [hmessage, unfinished] at hw

theorem WorkerIntact.step (h : WorkerIntact cfg enc s) (howned : Owned s)
    (hmove : Moves cfg enc minInterval s e o s') : WorkerIntact cfg enc s' := by
  have hsame := h.same howned hmove
  cases hmove with
  | workerReceive hw hchan =>
    constructor
    · intro item read hread
      simp only [WorkerState.encoding.injEq] at hread
      obtain ⟨rfl, rfl⟩ := hread
      rfl
    · intro item jpegBytes hjpeg
      cases hjpeg
    · intro item message hmessage
      cases hmessage
  | @encodeByte item read byte hw hbyte =>
    have hread := h.encoding item read hw
    constructor
    · intro item' read' hread'
      simp only [WorkerState.encoding.injEq] at hread'
      obtain ⟨rfl, rfl⟩ := hread'
      rw [List.length_append, List.length_singleton, List.take_add_one, hbyte, ← hread]
      rfl
    · intro item jpegBytes hjpeg
      cases hjpeg
    · intro item message hmessage
      cases hmessage
  | @encoded item read img jpegBytes hw hlen himg henc =>
    have hread := h.encoding item read hw
    rw [hlen, List.take_length] at hread
    rw [ycbcrImage_eq_planesOf himg, hread] at henc
    constructor
    · intro item read hread
      cases hread
    · intro item' jpegBytes' hjpeg
      simp only [WorkerState.building.injEq] at hjpeg
      obtain ⟨rfl, rfl⟩ := hjpeg
      exact henc
    · intro item message hmessage
      cases hmessage
  | @built item jpegBytes message hw hmar =>
    have hjpeg := h.building item jpegBytes hw
    constructor
    · intro item read hread
      cases hread
    · intro item jpegBytes hjpeg
      cases hjpeg
    · intro item' message' hmessage
      simp only [WorkerState.publishing.injEq] at hmessage
      obtain ⟨rfl, rfl⟩ := hmessage
      simp only [messageOf, hjpeg, hmar, Except.toOption]
  | workerStop hw | encodingFailed hw | marshalFailed hw | published hw | publishFailed hw
  | workerRelease hw => exact workerIntact_of_unfinished rfl
  | _ => exact hsame rfl

/-! ### Delivery -/

lemma Delivery.same (h : Delivery cfg enc l s) {l' : Ledger} (howned : Owned s)
    (hmove : Moves cfg enc minInterval s e o s') (hlist : inflight s' = inflight s)
    (hsub : l'.submitted = l.submitted) (hpub : l'.published = l.published) :
    Delivery cfg enc l' s' := by
  obtain ⟨done, waiting, hsplit, hcarry, hdone⟩ := h
  refine ⟨done, waiting, hsub.trans hsplit, ?_, ?_⟩
  · rw [hlist, map_inflight howned hmove]
    exact hcarry
  · rw [hpub]
    exact hdone

lemma Delivered.skip {published : List Bytes} {done : List Submission}
    (h : Delivered cfg enc published done) (f : Submission) :
    Delivered cfg enc published (done ++ [f]) := by
  obtain ⟨frames, hsub, hmap⟩ := h
  exact ⟨frames, hsub.trans (List.sublist_append_left done [f]), hmap⟩

lemma Delivered.snoc {published : List Bytes} {done : List Submission} {f : Submission}
    {message : Bytes} (h : Delivered cfg enc published done)
    (hf : f.message cfg enc = some message) :
    Delivered cfg enc (published ++ [message]) (done ++ [f]) := by
  obtain ⟨frames, hsub, hmap⟩ := h
  refine ⟨frames ++ [f], hsub.append (List.Sublist.refl [f]), ?_⟩
  rw [List.map_append, List.map_append, hmap, List.map_singleton, List.map_singleton, hf]

lemma Carries.message {item : FrameItem} {f : Submission} (h : Carries item f) :
    f.message cfg enc = messageOf cfg enc item.data item.motionBox item.isPostRoll := by
  obtain ⟨hdata, hbox, hroll⟩ := h
  rw [Submission.message, ← hdata, ← hbox, ← hroll]

/-- The worker finishes with its item: the frame leaves the items in flight. -/
lemma Delivery.finish (h : Delivery cfg enc l s) {l' : Ledger} (howned : Owned s)
    (hmove : Moves cfg enc minInterval s e o s') {item : ℕ} (hlist : inflight s = item :: inflight s')
    (hsub : l'.submitted = l.submitted)
    (hpub : l'.published = l.published ∨ ∃ message, l'.published = l.published ++ [message] ∧
      messageOf cfg enc (s.heap item).data (s.heap item).motionBox (s.heap item).isPostRoll =
        some message) :
    Delivery cfg enc l' s' := by
  obtain ⟨done, waiting, hsplit, hcarry, hdone⟩ := h
  have hheap := map_inflight howned hmove
  rw [hlist, List.map_cons, List.map_cons, List.cons.injEq] at hheap
  rw [hlist, List.map_cons] at hcarry
  cases hcarry with
  | @cons _ f _ waiting hf hrest =>
    refine ⟨done ++ [f], waiting, by simp [hsub, hsplit], by rw [hheap.2]; exact hrest, ?_⟩
    rcases hpub with hpub | ⟨message, hpub, hmessage⟩
    · rw [hpub]
      exact hdone.skip f
    · rw [hpub]
      exact hdone.snoc (hf.message.trans hmessage)

theorem Delivery.step (h : Delivery cfg enc l s) (howned : Owned s) (hmain : MainIntact cfg l s)
    (hworker : WorkerIntact cfg enc s) (hmove : Moves cfg enc minInterval s e o s') :
    Delivery cfg enc (l.note (e, o)) s' := by
  have hsame := @Delivery.same cfg enc minInterval s s' e o l h
  have hfinish := @Delivery.finish cfg enc minInterval s s' e o l h
  have hmove' := hmove
  cases hmove with
  | @submitted item now hm hlt =>
    obtain ⟨stamp, hstamp, hcarries, -⟩ := hmain.submitting item now hm
    obtain ⟨done, waiting, hsplit, hcarry, hdone⟩ := h
    refine ⟨done, waiting ++ [⟨l.pixels, stamp⟩], by simp [Ledger.note, hstamp, hsplit], ?_, hdone⟩
    have hlast : List.Forall₂ Carries [s.heap item] [⟨l.pixels, stamp⟩] := .cons hcarries .nil
    simpa [inflight] using List.rel_append hcarry hlast
  | workerReceive hw hchan =>
    exact hsame howned hmove' (by simp [inflight, hw, hchan, unfinished]) rfl rfl
  | workerStop hw | workerRelease hw =>
    exact hsame howned hmove' (by simp [inflight, hw, unfinished]) rfl rfl
  | encodeByte hw | encoded hw | built hw =>
    exact hsame howned hmove' (by simp [inflight, hw, unfinished]) rfl rfl
  | encodingFailed hw | marshalFailed hw =>
    exact hfinish howned hmove' (by rw [inflight, hw]; rfl) rfl (Or.inl rfl)
  | @published item message hw =>
    exact hfinish howned hmove' (by rw [inflight, hw]; rfl) rfl
      (Or.inr ⟨message, rfl, hworker.publishing item message hw⟩)
  | @publishFailed item message delivered hw =>
    cases delivered with
    | true =>
      exact hfinish howned hmove' (by rw [inflight, hw]; rfl) rfl
        (Or.inr ⟨message, rfl, hworker.publishing item message hw⟩)
    | false =>
      exact hfinish howned hmove' (by rw [inflight, hw]; rfl) rfl (Or.inl rfl)
  | _ => exact hsame howned hmove' rfl rfl rfl

/-! ### The main loop's item -/

/-- Only a dispatched frame takes a new sequence number. -/
lemma judge_sequence {st st' : LoopState} {now : Time} {yPlane : Bytes}
    {motion : Option MotionResult} {verdict : Verdict}
    (h : st.judge cfg minInterval now yPlane = some (st', motion, verdict)) :
    (∀ reason, verdict = .skip reason → st'.seqCounter = st.seqCounter) ∧
      ∀ stamp, verdict = .dispatch stamp →
        st'.seqCounter = st.seqCounter + 1 ∧ stamp.sequence = st'.seqCounter := by
  unfold LoopState.judge at h
  split at h
  · simp only [Option.some.injEq, Prod.mk.injEq] at h
    obtain ⟨rfl, -, rfl⟩ := h
    simp
  · simp only [Option.bind_eq_bind, Option.bind_eq_some_iff, Prod.exists, Option.some.injEq,
      Prod.mk.injEq] at h
    obtain ⟨d, m, -, hjudge, -, rfl⟩ := h
    have hnote : ∀ st : LoopState, (st.noteMotion now m).seqCounter = st.seqCounter := by
      intro st
      unfold LoopState.noteMotion
      split <;> rfl
    unfold LoopState.judgeMotion at hjudge ⊢
    dsimp only at hjudge ⊢
    split_ifs at hjudge ⊢ <;> subst hjudge <;> simp [hnote]

lemma length_readInto {data chunk : Bytes} {n : ℕ} (h : n + chunk.length ≤ data.length) :
    (readInto data n chunk).length = data.length := by
  simp only [readInto, List.length_append, List.length_take, List.length_drop]
  omega

lemma take_readInto {data chunk : Bytes} {n : ℕ} (h : n + chunk.length ≤ data.length) :
    (readInto data n chunk).take (n + chunk.length) = data.take n ++ chunk := by
  have hlen : (data.take n ++ chunk).length = n + chunk.length := by
    rw [List.length_append, List.length_take]
    omega
  rw [readInto, List.take_append_of_le_length hlen.ge, ← hlen, List.take_length]

/-- Every buffer keeps the frame size. -/
lemma moves_full (hfull : ∀ r < s.allocated, FullFrame cfg (s.heap r).data)
    (hmove : Moves cfg enc minInterval s e o s') :
    ∀ r < s'.allocated, FullFrame cfg (s'.heap r).data := by
  have hupdate : ∀ item f, (f : FrameItem).data.length = (s.heap item).data.length →
      ∀ r < s.allocated, FullFrame cfg (Function.update s.heap item f r).data := by
    intro item f hlen r hr
    have hone := hfull r hr
    rw [Function.update_apply]
    split
    · next hri =>
      rw [FullFrame, hlen, ← hri]
      exact hone
    · exact hone
  cases hmove with
  | acquirePooled hm hr => exact hupdate _ _ rfl
  | @acquireFresh now data hm hdata =>
    obtain ⟨hsize, rfl⟩ := Go.make_eq_some_iff.mp hdata
    intro r hr
    dsimp only at hr ⊢
    rw [Function.update_apply]
    split
    · simp [FullFrame, hsize]
    · exact hfull r (by omega)
  | readChunk hm hle => exact hupdate _ _ (length_readInto hle)
  | dispatch hm hslice hjudge => exact hupdate _ _ rfl
  | mainRelease hm => exact hupdate _ _ rfl
  | workerRelease hw => exact hupdate _ _ rfl
  | _ => exact hfull

/-- The main loop holds no frame that it reads, judges or submits. -/
def Quiet : MainState → Prop
  | .top | .releasing _ _ | .stopped => True
  | .reading _ _ _ | .captured _ _ | .submitting _ _ => False

lemma MainIntact.quiet (h : MainIntact cfg l s) {l' : Ledger}
    (hfull : ∀ r < s'.allocated, FullFrame cfg (s'.heap r).data) (hquiet : Quiet s'.main)
    (hseq : s'.loop.seqCounter = s.loop.seqCounter) (hsub : l'.submitted = l.submitted) :
    MainIntact cfg l' s' := by
  refine ⟨hfull, ?_, ?_, ?_, ?_, ?_, ?_⟩
  · intro item now n hm
    rw [hm] at hquiet
    exact hquiet.elim
  · intro item now hm
    rw [hm] at hquiet
    exact hquiet.elim
  · intro item now hm
    rw [hm] at hquiet
    exact hquiet.elim
  · rw [hsub]
    exact h.ordered
  · rw [hsub, hseq]
    exact h.counter
  · rw [hsub]
    exact h.pixels

/-- Moves of the worker and the signal handler. -/
lemma MainIntact.same (h : MainIntact cfg l s) {l' : Ledger}
    (hfull : ∀ r < s'.allocated, FullFrame cfg (s'.heap r).data) (hmain : s'.main = s.main)
    (hheap : ∀ r ∈ mainHeld s.main, s'.heap r = s.heap r) (hloop : s'.loop = s.loop)
    (hpixels : l'.pixels = l.pixels) (hstamp : l'.stamp = l.stamp)
    (hsub : l'.submitted = l.submitted) : MainIntact cfg l' s' := by
  refine ⟨hfull, ?_, ?_, ?_, ?_, ?_, ?_⟩
  · intro item now n hm
    rw [hmain] at hm
    rw [hheap item (by simp [hm, mainHeld]), hpixels]
    exact h.reading item now n hm
  · intro item now hm
    rw [hmain] at hm
    rw [hheap item (by simp [hm, mainHeld]), hpixels]
    exact h.captured item now hm
  · intro item now hm
    rw [hmain] at hm
    rw [hheap item (by simp [hm, mainHeld]), hpixels, hstamp, hsub, hloop]
    exact h.submitting item now hm
  · rw [hsub]
    exact h.ordered
  · rw [hsub, hloop]
    exact h.counter
  · rw [hsub]
    exact h.pixels

/-- The ledger gains the frame whose number the counter shows. -/
lemma MainIntact.append (h : MainIntact cfg l s) {l' : Ledger} {f : Submission}
    (hfull : ∀ r < s'.allocated, FullFrame cfg (s'.heap r).data) (hquiet : Quiet s'.main)
    (hloop : s'.loop.seqCounter = s.loop.seqCounter) (hsub : l'.submitted = l.submitted ++ [f])
    (hseq : f.stamp.sequence = s.loop.seqCounter)
    (hbelow : ∀ g ∈ l.submitted, g.stamp.sequence < s.loop.seqCounter)
    (hpixels : FullFrame cfg f.pixels) : MainIntact cfg l' s' := by
  have hold := @MainIntact.quiet cfg s s' l h { l' with submitted := l.submitted } hfull hquiet
    hloop rfl
  have hmem : ∀ g ∈ l'.submitted, g ∈ l.submitted ∨ g = f := by
    intro g hg
    rw [hsub, List.mem_append, List.mem_singleton] at hg
    exact hg
  refine ⟨hfull, hold.reading, hold.captured, ?_, ?_, ?_, ?_⟩
  · intro item now hm
    rw [hm] at hquiet
    exact hquiet.elim
  · rw [hsub, List.map_append, List.pairwise_append]
    refine ⟨h.ordered, List.pairwise_singleton _ _, ?_⟩
    intro i hi j hj
    obtain ⟨g, hg, rfl⟩ := List.mem_map.mp hi
    obtain rfl : j = f.stamp.sequence := by simpa using hj
    rw [hseq]
    exact hbelow g hg
  · intro g hg
    rw [hloop]
    rcases hmem g hg with hg | rfl
    · exact (hbelow g hg).le
    · exact hseq.le
  · intro g hg
    rcases hmem g hg with hg | rfl
    · exact h.pixels g hg
    · exact hpixels

theorem MainIntact.step (h : MainIntact cfg l s) (howned : Owned s)
    (hmove : Moves cfg enc minInterval s e o s') : MainIntact cfg (l.note (e, o)) s' := by
  have hfull := moves_full h.full hmove
  cases hmove with
  | startError hm => exact h.quiet hfull (by rw [hm]; trivial) rfl rfl
  | reset hm => exact h.quiet hfull (by rw [hm]; trivial) rfl rfl
  | mainStop hm | readError hm => exact h.quiet hfull trivial rfl rfl
  | cancel => exact h.same hfull rfl (fun _ _ => rfl) rfl rfl rfl rfl
  | skip hm hslice hjudge =>
    exact h.quiet hfull trivial ((judge_sequence hjudge).1 _ rfl) rfl
  | backpressure hm => exact h.quiet hfull trivial rfl rfl
  | @mainRelease item readFailed hm =>
    exact h.quiet hfull trivial (by cases readFailed <;> rfl) rfl
  | acquirePooled hm | acquireFresh hm =>
    refine ⟨hfull, ?_, ?_, ?_, h.ordered, h.counter, h.pixels⟩
    · intro item now n hread
      simp only [MainState.reading.injEq] at hread
      rw [← hread.2.2]
      exact ⟨rfl, rfl⟩
    · intro item now hcap
      cases hcap
    · intro item now hsubmit
      cases hsubmit
  | @readChunk item now n chunk hm hle =>
    obtain ⟨hn, htake⟩ := h.reading item now n hm
    refine ⟨hfull, ?_, ?_, ?_, h.ordered, h.counter, h.pixels⟩
    · intro item' now' n' hread
      simp only [MainState.reading.injEq] at hread
      obtain ⟨rfl, -, rfl⟩ := hread
      have hsame : (Function.update s.heap item
          { s.heap item with data := readInto (s.heap item).data n chunk } item).data =
          readInto (s.heap item).data n chunk := by rw [Function.update_self]
      rw [hsame, take_readInto hle, htake]
      exact ⟨by rw [hn, Ledger.note, List.length_append], rfl⟩
    · intro item now hcap
      cases hcap
    · intro item now hsubmit
      cases hsubmit
  | @frameRead item now hm =>
    have htake := (h.reading item now _ hm).2
    rw [List.take_length] at htake
    refine ⟨hfull, ?_, ?_, ?_, h.ordered, h.counter, h.pixels⟩
    · intro item now n hread
      cases hread
    · intro item' now' hcap
      simp only [MainState.captured.injEq] at hcap
      rw [← hcap.1]
      exact htake
    · intro item now hsubmit
      cases hsubmit
  | @dispatch item now yPlane loop motion stamp hm hslice hjudge =>
    obtain ⟨hnext, hstamp⟩ := (judge_sequence hjudge).2 stamp rfl
    have hbelow : ∀ f ∈ l.submitted, f.stamp.sequence < loop.seqCounter := by
      intro f hf
      have hle := h.counter f hf
      omega
    refine ⟨hfull, ?_, ?_, ?_, h.ordered, fun f hf => (hbelow f hf).le, h.pixels⟩
    · intro item now n hread
      cases hread
    · intro item now hcap
      cases hcap
    · intro item' now' hsubmit
      simp only [MainState.submitting.injEq] at hsubmit
      obtain ⟨rfl, -⟩ := hsubmit
      refine ⟨stamp, rfl, ?_, hstamp, hbelow⟩
      dsimp only
      rw [Function.update_self]
      exact ⟨h.captured item now hm, rfl, rfl⟩
  | @submitted item now hm hlt =>
    obtain ⟨stamp, hstamp, hcarries, hseq, hbelow⟩ := h.submitting item now hm
    have hnew : (l.note (PipelineEvent.submit, Observation.submitted)).submitted =
        l.submitted ++ [⟨l.pixels, stamp⟩] := by simp [Ledger.note, hstamp]
    have hitem := (howned.main_alone (by simp [hm, mainHeld] : item ∈ mainHeld s.main)).1
    have hpixels : FullFrame cfg l.pixels := by
      have hone := h.full item hitem
      rw [hcarries.1] at hone
      exact hone
    exact h.append hfull trivial rfl hnew hseq hbelow hpixels
  | workerReceive hw | workerStop hw | encodeByte hw | encoded hw | encodingFailed hw | built hw
  | marshalFailed hw | published hw => exact h.same hfull rfl (fun _ _ => rfl) rfl rfl rfl rfl
  | @publishFailed item message delivered hw =>
    cases delivered with
    | true => exact h.same hfull rfl (fun _ _ => rfl) rfl rfl rfl rfl
    | false => exact h.same hfull rfl (fun _ _ => rfl) rfl rfl rfl rfl
  | @workerRelease item hw =>
    refine h.same hfull rfl ?_ rfl rfl rfl rfl
    intro r hr
    apply Function.update_of_ne
    rintro rfl
    exact (howned.worker_alone (by simp [hw, workerHeld])).2.2.2 hr

/-! ### Runs -/

/-- What every run has established: the items in flight hold what the ledger says. -/
structure CapturerInv (cfg : Config) (enc : Encoders) (l : Ledger) (s : Pipeline) : Prop where
  owned : Owned s
  main : MainIntact cfg l s
  worker : WorkerIntact cfg enc s
  delivery : Delivery cfg enc l s

lemma capturerInv_start (d : MacroblockDetector) :
    CapturerInv cfg enc Ledger.start (Pipeline.start d) where
  owned := owned_start d
  main := by
    constructor <;> simp [Pipeline.start, Ledger.start]
  worker := workerIntact_of_unfinished rfl
  delivery := ⟨[], [], rfl, .nil, [], List.Sublist.refl [], rfl⟩

lemma CapturerInv.step (h : CapturerInv cfg enc l s) (hmove : Moves cfg enc minInterval s e o s') :
    CapturerInv cfg enc (l.note (e, o)) s' where
  owned := h.owned.step hmove
  main := h.main.step h.owned hmove
  worker := h.worker.step h.owned hmove
  delivery := h.delivery.step h.owned h.main h.worker hmove

lemma run_capturerInv {d : MacroblockDetector} {trace : List (PipelineEvent × Observation)}
    (hrun : Run (PipelineSteps cfg enc minInterval) (Pipeline.start d) trace s) :
    CapturerInv cfg enc (ledger trace) s := by
  refine hrun.invariant (fun past s => CapturerInv cfg enc (ledger past) s) (capturerInv_start d) ?_
  intro past s p s' ih hstep
  rw [ledger, List.foldl_append]
  exact ih.step (step_moves hstep)

end

def twoPixelConfig : Config where
  frameWidth := 2
  frameHeight := 1
  blockSize := 1
  minActiveBlocks := 1

/-- An encoder that keeps the luminance plane, and a message that keeps the image. -/
def plainEncoders : Encoders where
  jpeg := fun img => .ok img.y
  sha256 := fun jpegBytes => jpegBytes.take 1
  marshal := fun payload => .ok payload.image

/-- A reference frame, then a frame with motion that reuses the same item and is published. -/
def twoFrameEvents : List PipelineEvent :=
  [.acquire none ⟨1500, by decide⟩, .readChunk [0], .readChunk [0], .frameRead, .judge,
    .mainRelease, .acquire (some 0) ⟨2500, by decide⟩, .readChunk [0, 90], .frameRead, .judge,
    .submit, .workerReceive, .encodeByte, .encodeByte, .encoded, .build, .published, .workerRelease]

def twoFrameObservations : List Observation :=
  [.got 0, .silent, .silent, .silent, .silent, .put 0, .got 0, .silent, .silent,
    .dispatched ⟨2500, 1, false, some ⟨1, 0, 2, 1⟩⟩, .submitted, .silent, .silent, .silent,
    .silent, .silent, .published [65, 70, 111, 61], .put 0]

lemma twoFrames_run : ∃ d s, newMacroblockDetector twoPixelConfig = some d ∧
    Run (PipelineSteps twoPixelConfig plainEncoders 500) (Pipeline.start d)
      (twoFrameEvents.zip twoFrameObservations) s := by
  have hexec : ((newMacroblockDetector twoPixelConfig).bind fun d =>
      (exec (fun s e => s.step twoPixelConfig plainEncoders 500 e) (Pipeline.start d)
        twoFrameEvents).map Prod.snd) = some twoFrameObservations := by
    decide +kernel
  obtain ⟨d, hd, hmap⟩ := Option.bind_eq_some_iff.mp hexec
  obtain ⟨⟨s, obs⟩, hrun, hobs⟩ := Option.map_eq_some_iff.mp hmap
  obtain rfl : obs = twoFrameObservations := hobs
  exact ⟨d, s, hd, exec_run hrun⟩

end IntruderWatch.Proofs
