import IntruderWatch.Pipeline
import IntruderWatch.Proofs.MotionScan

/-!
# What a step of the capturer can do

Every step of the machine is one of the moves below. A move names the program point it starts
from, the guard it passed and the fields it writes, so that an invariant of the machine is one
case analysis over `Moves`.
-/

namespace IntruderWatch.Proofs
open Pipeline

section

variable (cfg : Config) (enc : Encoders) (minInterval : Duration) (s : Pipeline)

inductive Moves : PipelineEvent → Observation → Pipeline → Prop
  | startError : s.main = .top →
      Moves .startError .silent { s with metrics := s.metrics.failed .startError }
  | reset : s.main = .top → Moves .reset .silent { s with loop := s.loop.resetDetector }
  | mainStop : s.main = .top → s.cancelled = true →
      Moves .mainStop .silent { s with main := .stopped }
  | cancel : Moves .cancel .silent { s with cancelled := true }
  | acquirePooled {item : ℕ} {now : Clock} : s.main = .top → item ∈ s.framePool →
      Moves (.acquire (some item) now) (.got item)
        { s with
          framePool := s.framePool.erase item
          heap := Function.update s.heap item
            { s.heap item with motionBox := none, isPostRoll := false }
          main := .reading item now 0 }
  | acquireFresh {now : Clock} {data : Bytes} : s.main = .top → Go.make cfg.frameSize 0 = some data →
      Moves (.acquire none now) (.got s.allocated)
        { s with
          heap := Function.update s.heap s.allocated { emptyItem with data := data }
          allocated := s.allocated + 1
          main := .reading s.allocated now 0 }
  | readChunk {item : ℕ} {now : Clock} {n : ℕ} {chunk : Bytes} : s.main = .reading item now n →
      n + chunk.length ≤ (s.heap item).data.length →
      Moves (.readChunk chunk) .silent
        { s with
          heap := Function.update s.heap item
            { s.heap item with data := readInto (s.heap item).data n chunk }
          main := .reading item now (n + chunk.length) }
  | readError {item : ℕ} {now : Clock} {n : ℕ} : s.main = .reading item now n →
      n < (s.heap item).data.length →
      Moves .readError .silent { s with main := .releasing item true }
  | frameRead {item : ℕ} {now : Clock} : s.main = .reading item now (s.heap item).data.length →
      Moves .frameRead .silent
        { s with main := .captured item now, metrics := s.metrics.captured }
  | skip {item : ℕ} {now : Clock} {yPlane : Bytes} {loop : LoopState}
      {motion : Option MotionResult} {reason : SkipReason} : s.main = .captured item now →
      Go.slice (s.heap item).data 0 cfg.ySize = some yPlane →
      s.loop.judge cfg minInterval now yPlane = some (loop, motion, .skip reason) →
      Moves .judge .silent
        { s with
          loop := loop
          metrics := s.metrics.skipped reason
          main := .releasing item false }
  | dispatch {item : ℕ} {now : Clock} {yPlane : Bytes} {loop : LoopState}
      {motion : Option MotionResult} {stamp : FrameStamp} : s.main = .captured item now →
      Go.slice (s.heap item).data 0 cfg.ySize = some yPlane →
      s.loop.judge cfg minInterval now yPlane = some (loop, motion, .dispatch stamp) →
      Moves .judge (.dispatched stamp)
        { s with
          heap := Function.update s.heap item (stampItem stamp (s.heap item))
          loop := loop
          main := .submitting item now }
  | submitted {item : ℕ} {now : Clock} : s.main = .submitting item now →
      s.frameChan.length < chanCapacity →
      Moves .submit .submitted
        { s with
          frameChan := s.frameChan ++ [item]
          loop := s.loop.afterSubmit now true
          main := .top }
  | backpressure {item : ℕ} {now : Clock} : s.main = .submitting item now →
      chanCapacity ≤ s.frameChan.length →
      Moves .submit .silent
        { s with
          loop := s.loop.afterSubmit now false
          metrics := s.metrics.skipped .backpressure
          main := .releasing item false }
  | mainRelease {item : ℕ} {readFailed : Bool} : s.main = .releasing item readFailed →
      Moves .mainRelease (.put item)
        { s with
          heap := Function.update s.heap item { s.heap item with motionBox := none }
          framePool := item :: s.framePool
          metrics := if readFailed then s.metrics.failed .networkSyncLost else s.metrics
          loop := if readFailed then s.loop.resetDetector else s.loop
          main := .top }
  | workerReceive {item : ℕ} {rest : List ℕ} : s.worker = .idle → s.frameChan = item :: rest →
      Moves .workerReceive .silent { s with frameChan := rest, worker := .encoding item [] }
  | workerStop : s.worker = .idle → s.cancelled = true →
      Moves .workerStop .silent { s with worker := .stopped }
  | encodeByte {item : ℕ} {read : Bytes} {byte : UInt8} : s.worker = .encoding item read →
      (s.heap item).data[read.length]? = some byte →
      Moves .encodeByte .silent { s with worker := .encoding item (read ++ [byte]) }
  | encoded {item : ℕ} {read : Bytes} {img : YCbCr} {jpegBytes : Bytes} :
      s.worker = .encoding item read → read.length = (s.heap item).data.length →
      ycbcrImage cfg.frameWidth cfg.frameHeight cfg.ySize cfg.cSize read = some img →
      enc.jpeg img = .ok jpegBytes →
      Moves .encoded .silent { s with worker := .building item jpegBytes }
  | encodingFailed {item : ℕ} {read : Bytes} {img : YCbCr} {err : String} :
      s.worker = .encoding item read → read.length = (s.heap item).data.length →
      ycbcrImage cfg.frameWidth cfg.frameHeight cfg.ySize cfg.cSize read = some img →
      enc.jpeg img = .error err →
      Moves .encoded .silent
        { s with metrics := s.metrics.failed .encodingFailed, worker := .releasing item }
  | built {item : ℕ} {jpegBytes message : Bytes} : s.worker = .building item jpegBytes →
      enc.marshal (framePayload cfg enc jpegBytes (s.heap item).motionBox
        (s.heap item).isPostRoll) = .ok message →
      Moves .build .silent { s with worker := .publishing item message }
  | marshalFailed {item : ℕ} {jpegBytes : Bytes} {err : String} :
      s.worker = .building item jpegBytes →
      enc.marshal (framePayload cfg enc jpegBytes (s.heap item).motionBox
        (s.heap item).isPostRoll) = .error err →
      Moves .build .silent { s with worker := .releasing item }
  | published {item : ℕ} {message : Bytes} : s.worker = .publishing item message →
      Moves .published (.published message)
        { s with metrics := s.metrics.sent, worker := .releasing item }
  | publishFailed {item : ℕ} {message : Bytes} {delivered : Bool} :
      s.worker = .publishing item message →
      Moves (.publishFailed delivered) (if delivered then .published message else .silent)
        { s with metrics := s.metrics.failed .publishFailed, worker := .releasing item }
  | workerRelease {item : ℕ} : s.worker = .releasing item →
      Moves .workerRelease (.put item)
        { s with
          heap := Function.update s.heap item { s.heap item with motionBox := none }
          framePool := item :: s.framePool
          worker := .idle }

end

section

variable {cfg : Config} {enc : Encoders} {minInterval : Duration} {s s' : Pipeline}
  {e : PipelineEvent} {o : Observation}

lemma mainStep_moves (h : s.mainStep cfg minInterval s.main e = some (s', o)) :
    Moves cfg enc minInterval s e o s' := by
  generalize hm : s.main = m at h
  unfold mainStep at h
  split at h
  · obtain ⟨rfl, rfl⟩ : _ = s' ∧ _ = o := by simpa using h
    exact .startError hm
  · obtain ⟨rfl, rfl⟩ : _ = s' ∧ _ = o := by simpa using h
    exact .reset hm
  · split at h
    · next hc =>
      obtain ⟨rfl, rfl⟩ : _ = s' ∧ _ = o := by simpa using h
      exact .mainStop hm hc
    · cases h
  · next pooled now =>
    simp only [Option.bind_eq_bind, Option.bind_eq_some_iff, Prod.exists, Option.some.injEq,
      Prod.mk.injEq] at h
    obtain ⟨t, item, hacq, rfl, rfl⟩ := h
    cases pooled with
    | some r =>
      simp only [acquireFrame, Option.bind_eq_bind] at hacq
      by_cases hr : r ∈ s.framePool
      · simp only [hr, if_true, Option.bind_some, Option.some.injEq, Prod.mk.injEq] at hacq
        obtain ⟨rfl, rfl⟩ := hacq
        exact .acquirePooled hm hr
      · simp [hr] at hacq
    | none =>
      simp only [acquireFrame, Option.bind_eq_bind, Option.bind_some,
        Option.bind_eq_some_iff, Option.some.injEq, Prod.mk.injEq] at hacq
      obtain ⟨data, hdata, rfl, rfl⟩ := hacq
      simp only [updateItem, Function.update_self, Function.update_idem]
      exact .acquireFresh hm hdata
  · split at h
    · next hle =>
      obtain ⟨rfl, rfl⟩ : _ = s' ∧ _ = o := by simpa using h
      exact .readChunk hm hle
    · cases h
  · split at h
    · next hlt =>
      obtain ⟨rfl, rfl⟩ : _ = s' ∧ _ = o := by simpa using h
      exact .readError hm hlt
    · cases h
  · split at h
    · next hlen =>
      obtain ⟨rfl, rfl⟩ : _ = s' ∧ _ = o := by simpa using h
      rw [hlen] at hm
      exact .frameRead hm
    · cases h
  · simp only [Option.bind_eq_bind, Option.bind_eq_some_iff, Prod.exists] at h
    obtain ⟨yPlane, hslice, loop, motion, verdict, hjudge, h⟩ := h
    cases verdict with
    | skip reason =>
      obtain ⟨rfl, rfl⟩ : _ = s' ∧ _ = o := by simpa using h
      exact .skip hm hslice hjudge
    | dispatch stamp =>
      obtain ⟨rfl, rfl⟩ : _ = s' ∧ _ = o := by simpa using h
      exact .dispatch hm hslice hjudge
  · split at h
    · next hlt =>
      obtain ⟨rfl, rfl⟩ : _ = s' ∧ _ = o := by simpa using h
      exact .submitted hm hlt
    · next hge =>
      obtain ⟨rfl, rfl⟩ : _ = s' ∧ _ = o := by simpa using h
      exact .backpressure hm (not_lt.mp hge)
  · next item readFailed =>
    have hmove := @Moves.mainRelease cfg enc minInterval s item readFailed hm
    cases readFailed with
    | true =>
      obtain ⟨rfl, rfl⟩ : _ = s' ∧ _ = o := by simpa using h
      exact hmove
    | false =>
      obtain ⟨rfl, rfl⟩ : _ = s' ∧ _ = o := by simpa using h
      exact hmove
  · cases h

lemma workerStep_moves (h : s.workerStep cfg enc s.worker e = some (s', o)) :
    Moves cfg enc minInterval s e o s' := by
  generalize hw : s.worker = w at h
  unfold workerStep at h
  split at h
  · split at h
    · cases h
    · next item rest hchan =>
      obtain ⟨rfl, rfl⟩ : _ = s' ∧ _ = o := by simpa using h
      exact .workerReceive hw hchan
  · split at h
    · next hc =>
      obtain ⟨rfl, rfl⟩ : _ = s' ∧ _ = o := by simpa using h
      exact .workerStop hw hc
    · cases h
  · simp only [Option.bind_eq_bind, Option.bind_eq_some_iff, Option.some.injEq,
      Prod.mk.injEq] at h
    obtain ⟨byte, hbyte, rfl, rfl⟩ := h
    exact .encodeByte hw hbyte
  · split at h
    · next hlen =>
      simp only [Option.bind_eq_bind, Option.bind_eq_some_iff] at h
      obtain ⟨img, himg, h⟩ := h
      cases henc : enc.jpeg img with
      | error err =>
        rw [henc] at h
        obtain ⟨rfl, rfl⟩ : _ = s' ∧ _ = o := by simpa using h
        exact .encodingFailed hw hlen himg henc
      | ok jpegBytes =>
        rw [henc] at h
        obtain ⟨rfl, rfl⟩ : _ = s' ∧ _ = o := by simpa using h
        exact .encoded hw hlen himg henc
    · cases h
  · next item jpegBytes =>
    dsimp only at h
    cases hmar : enc.marshal (framePayload cfg enc jpegBytes (s.heap item).motionBox
        (s.heap item).isPostRoll) with
    | error err =>
      rw [hmar] at h
      obtain ⟨rfl, rfl⟩ : _ = s' ∧ _ = o := by simpa using h
      exact .marshalFailed hw hmar
    | ok message =>
      rw [hmar] at h
      obtain ⟨rfl, rfl⟩ : _ = s' ∧ _ = o := by simpa using h
      exact .built hw hmar
  · obtain ⟨rfl, rfl⟩ : _ = s' ∧ _ = o := by simpa using h
    exact .published hw
  · obtain ⟨rfl, rfl⟩ : _ = s' ∧ _ = o := by simpa using h
    exact .publishFailed hw
  · obtain ⟨rfl, rfl⟩ : _ = s' ∧ _ = o := by simpa using h
    exact .workerRelease hw
  · cases h

/-- The inversion of a step. -/
theorem step_moves (h : s.step cfg enc minInterval e = some (s', o)) :
    Moves cfg enc minInterval s e o s' := by
  unfold step at h
  split at h
  · obtain ⟨rfl, rfl⟩ : _ = s' ∧ _ = o := by simpa using h
    exact .cancel
  all_goals first | exact workerStep_moves h | exact mainStep_moves h

end

end IntruderWatch.Proofs
