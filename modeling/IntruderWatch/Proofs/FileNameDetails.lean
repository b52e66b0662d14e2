import IntruderWatch.ViewerPage
import IntruderWatch.Proofs.FrameMessages

/-!
# From the detector's file name to the details on the page

The name joins its fields by underscores and escapes none. The hostname is the only field that can
hold one; it comes back unless it does, or is empty.
-/

namespace IntruderWatch.Proofs
open Py Js

/-- The name of the file that the detector builds. -/
def evidenceName (time : DateTime) (hash instanceId : Py.Str) : Py.Str :=
  Py.lit "det_" ++ time.text ++ Py.lit "_" ++ hash ++ Py.lit "_" ++ instanceId.take 6 ++ Py.lit ".jpg"

/-- It stands behind the directory in the detector's path. -/
lemma detectionFile_evidenceName {Image : Type} {env : DetectorEnv Image} {m : FrameLocals}
    {time : DateTime} {filename : Py.Str} (h : env.detectionFile m time.text = .ok filename) :
    ∃ dir hash, env.hashPrefix m.expectedHash = .ok hash ∧
      filename = dir ++ slash :: evidenceName time hash env.instanceId := by
  obtain ⟨camera, -, h⟩ := bind_eq_ok.mp h
  obtain ⟨dir, -, h⟩ := bind_eq_ok.mp h
  obtain ⟨hash, hhash, h⟩ := bind_eq_ok.mp h
  refine ⟨dir, hash, hhash, (Except.ok.inj h).symm.trans ?_⟩
  have hdet : Py.lit "/det_" = slash :: Py.lit "det_" := rfl
  simp only [evidenceName, hdet, List.append_assoc, List.cons_append]

/-- Eight hexadecimal digits. -/
def HashPrefix (hash : Py.Str) : Prop :=
  hash.length = 8 ∧ ∀ c ∈ hash, 48 ≤ c.val ∧ c.val ≤ 57 ∨ 97 ≤ c.val ∧ c.val ≤ 102

/-- The hash of a frame message begins with one. -/
lemma hashPrefix_frameHash (f : CapturedFrame) : HashPrefix ((frameHash f).take 8) := by
  constructor
  · rw [List.length_take, frameHash, asciiText, List.length_map, length_hexEncode, f.length_digest]
    norm_num
  · intro c hc
    obtain ⟨d, hd, hval⟩ := mem_asciiText (List.mem_of_mem_take hc)
    rw [hval]
    exact hexEncode_mem hd

/-- Time of day, hash and host as the page shows them. -/
def DetailsSurvive (time : DateTime) (hash instanceId : Py.Str) : Prop :=
  let details := parseImageDetails (utf16 (evidenceName time hash instanceId))
  details.exactTime = utf16 time.timeText ∧ details.hash = utf16 hash ∧
    details.worker = utf16 (instanceId.take 6)

/-! ### The fields of the name -/

section Fields

variable (time : DateTime) {hash instanceId : Py.Str}

lemma underscore_notMem_text : Py.ofChar '_' ∉ time.text := by
  have hval : (Py.ofChar '_').val = 95 := rfl
  have hspace : (Py.ofChar ' ').val = 32 := rfl
  intro h
  rw [DateTime.text, List.mem_append, List.mem_cons] at h
  rcases h with h | h | h
  · have hdate := time.mem_dateText h
    omega
  · rw [h] at hval
    omega
  · have htime := time.mem_timeText h
    omega

lemma HashPrefix.underscore_notMem (h : HashPrefix hash) : Py.ofChar '_' ∉ hash := by
  have hval : (Py.ofChar '_').val = 95 := rfl
  intro hmem
  have hdigit := h.2 _ hmem
  omega

lemma HashPrefix.ne_nil (h : HashPrefix hash) : hash ≠ [] := by
  rintro rfl
  cases h.1

/-- The last field with the extension. -/
def hostPart (instanceId : Py.Str) : Js.Str := utf16 (instanceId.take 6) ++ Js.lit ".jpg"

lemma utf16_evidenceName : utf16 (evidenceName time hash instanceId) =
    Js.lit "det" ++ Js.ofChar '_' :: (utf16 time.text ++ Js.ofChar '_' ::
      (utf16 hash ++ Js.ofChar '_' :: hostPart instanceId)) := by
  have hdet : utf16 (Py.lit "det_") = Js.lit "det" ++ [Js.ofChar '_'] := by decide
  have hsep : utf16 (Py.lit "_") = [Js.ofChar '_'] := by decide
  have hjpg : utf16 (Py.lit ".jpg") = Js.lit ".jpg" := rfl
  simp only [evidenceName, utf16_append, hdet, hsep, hjpg, hostPart, List.append_assoc,
    List.cons_append, List.nil_append]

/-- No field before the host holds an underscore. -/
lemma parts_evidenceName (h : HashPrefix hash) :
    (utf16 (evidenceName time hash instanceId)).splitOn (Js.ofChar '_') =
      Js.lit "det" :: utf16 time.text :: utf16 hash ::
        (hostPart instanceId).splitOn (Js.ofChar '_') := by
  have htext : Js.ofChar '_' ∉ utf16 time.text := by
    rw [mem_utf16 (by decide)]
    exact underscore_notMem_text time
  have hhash : Js.ofChar '_' ∉ utf16 hash := by
    rw [mem_utf16 (by decide)]
    exact h.underscore_notMem
  rw [utf16_evidenceName, List.splitOn_append_cons_self_of_not_mem (by decide),
    List.splitOn_append_cons_self_of_not_mem htext, List.splitOn_append_cons_self_of_not_mem hhash]

lemma space_notMem : Js.ofChar ' ' ∉ utf16 time.dateText ∧ Js.ofChar ' ' ∉ utf16 time.timeText := by
  have hval : (Py.ofChar ' ').val = 32 := rfl
  rw [mem_utf16 (by decide), mem_utf16 (by decide)]
  constructor
  · intro h
    have hdate := time.mem_dateText h
    omega
  · intro h
    have htime := time.mem_timeText h
    omega

lemma readTime_text : (ImageDetails.readTime (utf16 time.text)).2 = utf16 time.timeText := by
  have htext : utf16 time.text = utf16 time.dateText ++ Js.ofChar ' ' :: utf16 time.timeText := by
    rw [DateTime.text, utf16_append, utf16_cons (by decide)]
  rw [ImageDetails.readTime, htext, if_pos (by simp),
    List.splitOn_append_cons_self_of_not_mem (space_notMem time).1,
    List.splitOn_eq_singleton (space_notMem time).2]
  rfl

/-- Time and hash survive for every hostname; the host is read from the last field. -/
lemma parse_evidenceName (h : HashPrefix hash) :
    let details := parseImageDetails (utf16 (evidenceName time hash instanceId))
    details.exactTime = utf16 time.timeText ∧ details.hash = utf16 hash ∧
      details.worker =
        orElse (removeExtension (firstPart (Js.ofChar '_') (hostPart instanceId))) (Js.lit "node") := by
  have htime : time.timeText ≠ [] := by simp [DateTime.timeText]
  obtain ⟨part, parts, hparts⟩ :=
    List.exists_cons_of_ne_nil (List.splitOn_ne_nil (Js.ofChar '_') (hostPart instanceId))
  dsimp only
  rw [parseImageDetails, parts_evidenceName time h, firstPart, hparts]
  refine ⟨?_, ?_, rfl⟩
  · change orElse (ImageDetails.readTime (utf16 time.text)).2 _ = _
    rw [readTime_text, orElse, if_neg (utf16_eq_nil_iff.not.mpr htime)]
  · change orElse (utf16 hash) _ = _
    rw [orElse, if_neg (utf16_eq_nil_iff.not.mpr h.ne_nil)]

end Fields

/-! ### The host -/

lemma worker_of_underscore {instanceId : Py.Str} (h : Py.ofChar '_' ∈ instanceId.take 6) :
    orElse (removeExtension (firstPart (Js.ofChar '_') (hostPart instanceId))) (Js.lit "node") ≠
      utf16 (instanceId.take 6) := by
  have hmem := (mem_utf16 (c := '_') (by decide)).mpr h
  obtain ⟨front, rest, hfront, hnot⟩ := List.eq_append_cons_of_mem hmem
  have hpart : firstPart (Js.ofChar '_') (hostPart instanceId) = front := by
    rw [hostPart, hfront, List.append_assoc, List.cons_append, firstPart_append hnot]
  intro heq
  rw [← heq, hpart, orElse] at hmem
  split at hmem
  · revert hmem
    decide
  · exact hnot (mem_of_mem_removeExtension hmem)

lemma worker_of_no_underscore {instanceId : Py.Str} (h : Py.ofChar '_' ∉ instanceId.take 6) :
    removeExtension (firstPart (Js.ofChar '_') (hostPart instanceId)) = utf16 (instanceId.take 6) := by
  have hnot : Js.ofChar '_' ∉ hostPart instanceId := by
    rw [hostPart, List.mem_append, not_or, mem_utf16 (by decide)]
    exact ⟨h, by decide⟩
  have hjpg : Js.lit ".jpg" = Js.ofChar '.' :: Js.lit "jpg" := by decide
  rw [firstPart, List.splitOn_eq_singleton hnot, List.headD_cons, hostPart, hjpg]
  exact removeExtension_append (by decide) (by decide) (by decide) _

/-- For every time, hash and hostname: the details survive just when the hostname is not empty and has
no underscore among its first six characters. -/
theorem details_survive_iff (time : DateTime) {hash : Py.Str} (h : HashPrefix hash)
    (instanceId : Py.Str) :
    DetailsSurvive time hash instanceId ↔ instanceId ≠ [] ∧ Py.ofChar '_' ∉ instanceId.take 6 := by
  obtain ⟨htime, hhash, hworker⟩ := @parse_evidenceName time hash instanceId h
  unfold DetailsSurvive
  dsimp only at hworker ⊢
  rw [hworker]
  constructor
  · rintro ⟨-, -, hhost⟩
    have hnot : Py.ofChar '_' ∉ instanceId.take 6 := fun hmem => worker_of_underscore hmem hhost
    refine ⟨?_, hnot⟩
    rintro rfl
    revert hhost
    decide
  · rintro ⟨hne, hnot⟩
    refine ⟨htime, hhash, ?_⟩
    rw [worker_of_no_underscore hnot, orElse, if_neg (utf16_eq_nil_iff.not.mpr (by simp [hne]))]

def plainFrame : CapturedFrame where
  camera := ⟨1, by decide⟩
  jpegBytes := [255, 216]
  digest := List.replicate 32 0x9f
  length_digest := List.length_replicate
  motionBox := none
  isPostRoll := false

def frameTime : DateTime := ⟨2026, 9, 27, 21, 40, 5, 250000, by norm_num⟩

theorem details_survive_iff_container :
    DetailsSurvive frameTime ((frameHash plainFrame).take 8) (Py.lit "3f2a9c1b7d10") :=
  (details_survive_iff frameTime (hashPrefix_frameHash plainFrame) _).mpr ⟨by decide, by decide⟩

/-- Of a hostname with an underscore the page shows what stands in front of it. -/
theorem underscored_host_lost :
    ¬ DetailsSurvive frameTime ((frameHash plainFrame).take 8) (Py.lit "gpu_1") := by
  rintro ⟨-, -, hhost⟩
  revert hhost
  decide

end IntruderWatch.Proofs
