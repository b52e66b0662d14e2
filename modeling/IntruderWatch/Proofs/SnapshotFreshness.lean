import IntruderWatch.Snapshot
import IntruderWatch.Library.Histories
import IntruderWatch.Proofs.MotionScan

/-!
# Freshness of snapshots

The manager keeps the newest raw frame, the newest JPEG and the time of the newest update of
either kind. A picture is therefore shown with its own time only when its own update was the
newest one: a raw frame that arrives after a JPEG keeps that JPEG inside the 4 seconds of the
hot path for as long as frames keep coming.
-/

namespace IntruderWatch.Proofs
open History SnapshotManager

/-! ### The past of a manager -/

def storedRaw (e : SnapshotEvent) : Option (Time × Bytes) :=
  match e.call with
  | .updateRaw raw => some (e.now, raw)
  | _ => none

def storedJPEG (e : SnapshotEvent) : Option (Time × Bytes) :=
  match e.call with
  | .updateJPEG jpegBytes => some (e.now, jpegBytes)
  | _ => none

def updateTime (e : SnapshotEvent) : Option Time :=
  match e.call with
  | .getSnapshot _ => none
  | _ => some e.now

/-- Raw updates store full-size frames. -/
def StoresFullFrame (cfg : Config) (e : SnapshotEvent) : Prop :=
  ∀ raw, e.call = .updateRaw raw → FullFrame cfg raw

/-- The picture is the encoding of the newest raw frame or the newest JPEG, that one less than
4 seconds old, and the time is the one at which it was stored. -/
def Fresh (cfg : Config) (encode : YCbCr → Except String Bytes) (past : List SnapshotEvent)
    (now : Time) (picture : Bytes) (snapTime : Time) : Prop :=
  (∃ raw, latestOf storedRaw past = some (snapTime, raw) ∧ encode (planesOf cfg raw) = .ok picture) ∨
    (latestOf storedJPEG past = some (snapTime, picture) ∧ picture ≠ [] ∧ now - snapTime < cacheWindow)

/-- There is a JPEG, and the newest update of either kind is less than 4 seconds old. -/
def CacheHit (past : List SnapshotEvent) (now : Time) : Prop :=
  ∃ tj picture u, latestOf storedJPEG past = some (tj, picture) ∧ picture ≠ [] ∧
    latestOf updateTime past = some u ∧ now - u < cacheWindow

/-- The update that the answer will be taken from carries the newest time stamp; a cached JPEG
may also be the encoding of the raw frame that does. -/
def StampMatches (cfg : Config) (encode : YCbCr → Except String Bytes) (past : List SnapshotEvent)
    (now : Time) : Prop :=
  (CacheHit past now → ∃ tj picture, latestOf storedJPEG past = some (tj, picture) ∧
    (latestOf updateTime past = some tj ∨ ∃ tr raw, latestOf storedRaw past = some (tr, raw) ∧
      latestOf updateTime past = some tr ∧ encode (planesOf cfg raw) = .ok picture)) ∧
  (¬ CacheHit past now → ∃ tr raw, latestOf storedRaw past = some (tr, raw) ∧
    latestOf updateTime past = some tr)

/-! ### The fields and the past -/

structure SnapshotInv (cfg : Config) (past : List SnapshotEvent) (s : SnapshotManager) : Prop where
  frameW : s.frameW = cfg.frameWidth
  frameH : s.frameH = cfg.frameHeight
  ySize : s.ySize = cfg.ySize
  cSize : s.cSize = cfg.cSize
  full : FullFrame cfg s.rawFrame
  raw : ∀ p, latestOf storedRaw past = some p → s.rawFrame = p.2
  jpeg : s.jpegBytes = (latestOf storedJPEG past).elim [] Prod.snd
  stamp : s.updatedAt = (latestOf updateTime past).getD 0
  positive : ∀ u, latestOf updateTime past = some u → 0 < u

section

variable {cfg : Config} {encode : YCbCr → Except String Bytes} {past : List SnapshotEvent}
  {s : SnapshotManager}

lemma newSnapshotManager_inv (h : newSnapshotManager cfg = some s) : SnapshotInv cfg [] s := by
  simp only [newSnapshotManager, Option.bind_eq_bind, Option.bind_eq_some_iff,
    Option.some.injEq] at h
  obtain ⟨rawFrame, hmake, rfl⟩ := h
  obtain ⟨hsize, rfl⟩ := Go.make_eq_some_iff.mp hmake
  refine ⟨rfl, rfl, rfl, rfl, ?_, by simp, rfl, rfl, by simp⟩
  simp [FullFrame, hsize]

lemma SnapshotInv.updateRaw {raw : Bytes} (h : SnapshotInv cfg past s) (now : Clock)
    (hraw : FullFrame cfg raw) :
    SnapshotInv cfg (past ++ [⟨now, .updateRaw raw⟩]) (s.updateRaw raw now) := by
  have hlen : (raw.length : ℤ) = s.rawFrame.length := hraw.trans h.full.symm
  have hcopy : Go.copy s.rawFrame raw = raw := Go.copy_of_length_eq (by exact_mod_cast hlen)
  refine ⟨h.frameW, h.frameH, h.ySize, h.cSize, ?_, ?_, ?_, ?_, ?_⟩
  · simpa [SnapshotManager.updateRaw, hcopy] using hraw
  · simp [SnapshotManager.updateRaw, hcopy, storedRaw]
  · simpa [SnapshotManager.updateRaw, storedJPEG] using h.jpeg
  · simp [SnapshotManager.updateRaw, updateTime]
  · simpa [updateTime] using now.2

lemma SnapshotInv.updateJPEG (h : SnapshotInv cfg past s) (now : Clock) (jpegBytes : Bytes) :
    SnapshotInv cfg (past ++ [⟨now, .updateJPEG jpegBytes⟩]) (s.updateJPEG jpegBytes now) := by
  refine ⟨h.frameW, h.frameH, h.ySize, h.cSize, h.full, ?_, ?_, ?_, ?_⟩
  · simpa [SnapshotManager.updateJPEG, storedRaw] using h.raw
  · simp [SnapshotManager.updateJPEG, storedJPEG]
  · simp [SnapshotManager.updateJPEG, updateTime]
  · simpa [updateTime] using now.2

lemma SnapshotInv.getSnapshot (h : SnapshotInv cfg past s) (now : Clock) (withGrid : Bool) :
    SnapshotInv cfg (past ++ [⟨now, .getSnapshot withGrid⟩]) s := by
  refine ⟨h.frameW, h.frameH, h.ySize, h.cSize, h.full, ?_, ?_, ?_, ?_⟩
  · simpa [storedRaw] using h.raw
  · simpa [storedJPEG] using h.jpeg
  · simpa [updateTime] using h.stamp
  · simpa [updateTime] using h.positive

lemma SnapshotInv.step {e : SnapshotEvent} {s' : SnapshotManager} {o : Option SnapshotAnswer}
    (h : SnapshotInv cfg past s) (he : StoresFullFrame cfg e)
    (hstep : snapshotStep encode s e = some (s', o)) : SnapshotInv cfg (past ++ [e]) s' := by
  obtain ⟨now, call⟩ := e
  cases call with
  | updateRaw raw =>
    simp only [snapshotStep, Option.some.injEq, Prod.mk.injEq] at hstep
    rw [← hstep.1]
    exact h.updateRaw now (he raw rfl)
  | updateJPEG jpegBytes =>
    simp only [snapshotStep, Option.some.injEq, Prod.mk.injEq] at hstep
    rw [← hstep.1]
    exact h.updateJPEG now jpegBytes
  | getSnapshot withGrid =>
    simp only [snapshotStep, Option.map_eq_some_iff, Prod.mk.injEq] at hstep
    obtain ⟨a, -, rfl, -⟩ := hstep
    exact h.getSnapshot now withGrid

/-! ### One snapshot -/

lemma SnapshotInv.cacheHit_iff (h : SnapshotInv cfg past s) (hraw : 0 < s.updatedAt) {now : Time} :
    CacheHit past now ↔ s.jpegBytes ≠ [] ∧ now - s.updatedAt < cacheWindow := by
  rw [h.stamp] at hraw
  rw [CacheHit, h.jpeg, h.stamp]
  cases hu : latestOf updateTime past with
  | none => simp [hu] at hraw
  | some u =>
    cases hj : latestOf storedJPEG past with
    | none => simp
    | some j =>
      obtain ⟨tj, picture⟩ := j
      simp

/-- The two ways a snapshot without grid succeeds. -/
lemma SnapshotInv.getSnapshot_cases (h : SnapshotInv cfg past s) {now : Time} {picture : Bytes}
    {snapTime : Time} (hget : s.getSnapshot encode false now = some (.ok (picture, snapTime))) :
    latestOf updateTime past = some snapTime ∧
      ((CacheHit past now ∧ ∃ tj, latestOf storedJPEG past = some (tj, picture)) ∨
        (¬ CacheHit past now ∧ encode (planesOf cfg s.rawFrame) = .ok picture)) := by
  have hmake : Go.make (s.rawFrame.length : ℤ) (0 : UInt8) =
      some (List.replicate s.rawFrame.length 0) := by simp [Go.make]
  have hcopy : Go.copy (List.replicate s.rawFrame.length 0) s.rawFrame = s.rawFrame :=
    Go.copy_of_length_eq (by simp)
  simp only [SnapshotManager.getSnapshot, hmake, Option.bind_eq_bind, Option.bind_some, hcopy] at hget
  by_cases hraw : 0 < s.updatedAt
  · have hstamp : latestOf updateTime past = some s.updatedAt := by
      have hs := h.stamp
      cases hu : latestOf updateTime past with
      | none => rw [hu] at hs; simp [hs] at hraw
      | some u => rw [hu] at hs; simp [hs]
    by_cases hhit : CacheHit past now
    · obtain ⟨hne, hage⟩ := (h.cacheHit_iff hraw).mp hhit
      have hlen : 0 < s.jpegBytes.length := List.length_pos_of_ne_nil hne
      simp only [hraw, hlen, hage, decide_true, Bool.not_true, Bool.not_false,
        Bool.and_self, Bool.false_eq_true, if_false, if_true, Option.some.injEq, Except.ok.injEq,
        Prod.mk.injEq] at hget
      obtain ⟨rfl, rfl⟩ := hget
      refine ⟨hstamp, Or.inl ⟨hhit, ?_⟩⟩
      obtain ⟨tj, picture, u, hj, -⟩ := hhit
      have hjpeg := h.jpeg
      rw [hj, Option.elim_some] at hjpeg
      exact ⟨tj, by rw [hjpeg]; exact hj⟩
    · have hmiss : (!false && decide (0 < s.jpegBytes.length) &&
          decide (now - s.updatedAt < cacheWindow)) = false := by
        by_contra hne
        apply hhit
        rw [h.cacheHit_iff hraw]
        simp only [Bool.not_false, Bool.true_and, Bool.not_eq_false, Bool.and_eq_true,
          decide_eq_true_eq] at hne
        exact ⟨List.ne_nil_of_length_pos hne.1, hne.2⟩
      simp only [hraw, hmiss, decide_true, Bool.not_true, Bool.false_eq_true, if_false,
        Option.bind_eq_some_iff] at hget
      obtain ⟨img, himg, hget⟩ := hget
      rw [h.frameW, h.frameH, h.ySize, h.cSize] at himg
      rw [ycbcrImage_eq_planesOf himg] at hget
      cases henc : encode (planesOf cfg s.rawFrame) with
      | error err => simp [henc] at hget
      | ok buf =>
        obtain ⟨rfl, rfl⟩ : buf = picture ∧ s.updatedAt = snapTime := by simpa [henc] using hget
        exact ⟨hstamp, Or.inr ⟨hhit, rfl⟩⟩
  · simp [hraw] at hget

/-- A successful snapshot is fresh exactly when its source carries the newest stamp. -/
lemma SnapshotInv.fresh_iff (h : SnapshotInv cfg past s) {now : Time} {picture : Bytes}
    {snapTime : Time} (hget : s.getSnapshot encode false now = some (.ok (picture, snapTime))) :
    Fresh cfg encode past now picture snapTime ↔ StampMatches cfg encode past now := by
  obtain ⟨hstamp, ⟨hhit, tj, hj⟩ | ⟨hmiss, henc⟩⟩ := h.getSnapshot_cases hget
  · obtain ⟨t, p, u, hj', hne, hu, hage⟩ := id hhit
    obtain ⟨rfl, rfl⟩ : tj = t ∧ picture = p := by simpa [hj] using hj'
    obtain rfl : snapTime = u := by simpa [hstamp] using hu
    constructor
    · rintro (⟨raw, hraw, henc⟩ | ⟨hjpeg, -, -⟩)
      · exact ⟨fun _ => ⟨tj, picture, hj, Or.inr ⟨snapTime, raw, hraw, hstamp, henc⟩⟩,
          fun hno => absurd hhit hno⟩
      · exact ⟨fun _ => ⟨snapTime, picture, hjpeg, Or.inl hstamp⟩, fun hno => absurd hhit hno⟩
    · intro hmatch
      obtain ⟨t, p, hp, hcase⟩ := hmatch.1 hhit
      obtain ⟨rfl, rfl⟩ : tj = t ∧ picture = p := by simpa [hj] using hp
      rcases hcase with hlast | ⟨tr, raw, hraw, hlast, henc⟩
      · obtain rfl : snapTime = tj := by simpa [hstamp] using hlast
        exact Or.inr ⟨hj, hne, hage⟩
      · obtain rfl : snapTime = tr := by simpa [hstamp] using hlast
        exact Or.inl ⟨raw, hraw, henc⟩
  · constructor
    · rintro (⟨raw, hraw, -⟩ | ⟨hjpeg, hne, hage⟩)
      · exact ⟨fun hhit => absurd hhit hmiss, fun _ => ⟨snapTime, raw, hraw, hstamp⟩⟩
      · exact absurd ⟨snapTime, picture, snapTime, hjpeg, hne, hstamp, hage⟩ hmiss
    · intro hmatch
      obtain ⟨tr, raw, hraw, hlast⟩ := hmatch.2 hmiss
      obtain rfl : snapTime = tr := by simpa [hstamp] using hlast
      rw [h.raw _ hraw] at henc
      exact Or.inl ⟨raw, hraw, henc⟩

/-! ### Runs -/

/-- A successful snapshot without grid is fresh exactly when its source carries the newest
stamp of its past. -/
def FreshLaw (cfg : Config) (encode : YCbCr → Except String Bytes)
    (past : List (SnapshotEvent × Option SnapshotAnswer))
    (p : SnapshotEvent × Option SnapshotAnswer) : Prop :=
  ∀ now picture snapTime, p = (⟨now, .getSnapshot false⟩, some (.ok (picture, snapTime))) →
    (Fresh cfg encode (past.map Prod.fst) now picture snapTime ↔
      StampMatches cfg encode (past.map Prod.fst) now)

lemma SnapshotInv.freshLaw {past : List (SnapshotEvent × Option SnapshotAnswer)}
    {e : SnapshotEvent} {s' : SnapshotManager} {o : Option SnapshotAnswer}
    (h : SnapshotInv cfg (past.map Prod.fst) s) (hstep : snapshotStep encode s e = some (s', o)) :
    FreshLaw cfg encode past (e, o) := by
  intro now picture snapTime he
  obtain ⟨rfl, rfl⟩ := Prod.mk.inj he
  simp only [snapshotStep, Option.map_eq_some_iff, Prod.mk.injEq, Option.some.injEq] at hstep
  obtain ⟨a, hget, -, rfl⟩ := hstep
  exact h.fresh_iff hget

lemma snapshotRun_fresh {s₀ : SnapshotManager}
    {past : List (SnapshotEvent × Option SnapshotAnswer)} (h0 : SnapshotInv cfg [] s₀)
    (hfull : ∀ p ∈ past, StoresFullFrame cfg p.1)
    (hrun : Transition.Run (Transition.Steps (snapshotStep encode)) s₀ past s) :
    Along (FreshLaw cfg encode) past := by
  let Inv (past : List (SnapshotEvent × Option SnapshotAnswer)) (s : SnapshotManager) : Prop :=
    (∀ p ∈ past, StoresFullFrame cfg p.1) →
      SnapshotInv cfg (past.map Prod.fst) s ∧ Along (FreshLaw cfg encode) past
  have hstep : ∀ past s p s', Inv past s → Transition.Steps (snapshotStep encode) s p s' →
      Inv (past ++ [p]) s' := by
    intro past s p s' ih hp hall
    obtain ⟨hinv, hlaw⟩ := ih (fun q hq => hall q (List.mem_append_left _ hq))
    have hthis := hall p (by simp)
    refine ⟨?_, along_snoc_iff.mpr ⟨hlaw, hinv.freshLaw hp⟩⟩
    rw [List.map_append, List.map_singleton]
    exact hinv.step hthis hp
  exact (hrun.invariant Inv (fun _ => ⟨h0, along_nil _⟩) hstep hfull).2

end

/-- In every run, a picture returned without grid is fresh if and only if the update it is taken
from carries the newest stamp. -/
theorem snapshots_fresh_iff (cfg : Config) (encode : YCbCr → Except String Bytes)
    (events : List SnapshotEvent) (answers : List (Option SnapshotAnswer))
    (hrun : snapshotAnswers cfg encode events = some answers)
    (hfull : ∀ e ∈ events, StoresFullFrame cfg e) (k : ℕ) (now : Clock) (picture : Bytes)
    (snapTime : Time) (hcall : events[k]? = some ⟨now, .getSnapshot false⟩)
    (hanswer : answers[k]? = some (some (.ok (picture, snapTime)))) :
    Fresh cfg encode (events.take k) now picture snapTime ↔
      StampMatches cfg encode (events.take k) now := by
  simp only [snapshotAnswers, Option.bind_eq_bind, Option.bind_eq_some_iff, Prod.exists,
    Option.some.injEq] at hrun
  obtain ⟨s, hnew, s', os, hexec, rfl⟩ := hrun
  have hlen := Transition.exec_length hexec
  have hlaw : Along (FreshLaw cfg encode) (events.zip os) := by
    apply snapshotRun_fresh (newSnapshotManager_inv hnew) _ (Transition.exec_run hexec)
    intro p hp
    exact hfull p.1 (List.of_mem_zip hp).1
  obtain ⟨hk, hcall⟩ := List.getElem?_eq_some_iff.mp hcall
  obtain ⟨hk', hanswer⟩ := List.getElem?_eq_some_iff.mp hanswer
  have hzip : k < (events.zip os).length := by simp [hk, hk']
  have hpair : (events.zip os)[k] =
      (⟨now, .getSnapshot false⟩, some (.ok (picture, snapTime))) := by
    rw [List.getElem_zip, hcall, hanswer]
  have hiff := hlaw k hzip now picture snapTime hpair
  have hpast : ((events.zip os).take k).map Prod.fst = events.take k := by
    rw [List.map_take, List.map_fst_zip hlen.ge]
  rwa [hpast] at hiff

def pixelConfig : Config where
  frameWidth := 2
  frameHeight := 2

/-- An encoder that keeps the luminance plane. -/
def lumaEncode (img : YCbCr) : Except String Bytes :=
  .ok img.y

/-- A motion frame at 1 s, stored raw and as a JPEG, then a raw frame at 60 s and a request
one second later. -/
def staleEvents : List SnapshotEvent :=
  [⟨⟨1000000000, by decide⟩, .updateRaw [1, 1, 1, 1, 128, 128]⟩,
    ⟨⟨1000000001, by decide⟩, .updateJPEG [7]⟩,
    ⟨⟨60000000000, by decide⟩, .updateRaw [2, 2, 2, 2, 128, 128]⟩,
    ⟨⟨61000000000, by decide⟩, .getSnapshot false⟩]

theorem snapshots_fresh_iff_stale :
    Fresh pixelConfig lumaEncode (staleEvents.take 3) 61000000000 [7] 60000000000 ↔
      StampMatches pixelConfig lumaEncode (staleEvents.take 3) 61000000000 := by
  have hfull : ∀ e ∈ staleEvents, StoresFullFrame pixelConfig e := by
    have hsize : pixelConfig.frameSize = 6 := rfl
    simp [staleEvents, StoresFullFrame, FullFrame, hsize]
  exact snapshots_fresh_iff pixelConfig lumaEncode staleEvents
    [none, none, none, some (.ok ([7], 60000000000))] rfl hfull 3 ⟨61000000000, by decide⟩ [7]
    60000000000 rfl rfl

/-- The JPEG of a minute ago is served as a picture of the last raw frame. -/
theorem stale_jpeg_served :
    snapshotAnswers pixelConfig lumaEncode staleEvents =
        some [none, none, none, some (.ok ([7], 60000000000))] ∧
      ¬ Fresh pixelConfig lumaEncode (staleEvents.take 3) 61000000000 [7] 60000000000 := by
  have hraw : latestOf storedRaw (staleEvents.take 3) =
      some (60000000000, [2, 2, 2, 2, 128, 128]) := rfl
  have hjpeg : latestOf storedJPEG (staleEvents.take 3) = some (1000000001, [7]) := rfl
  refine ⟨rfl, ?_⟩
  rintro (⟨raw, hlast, henc⟩ | ⟨hlast, -, -⟩)
  · obtain rfl : [2, 2, 2, 2, 128, 128] = raw := by simpa [hraw] using hlast
    have hsize : pixelConfig.ySize.toNat = 4 := rfl
    simp [lumaEncode, planesOf, hsize] at henc
  · simp [hjpeg] at hlast

end IntruderWatch.Proofs
