import IntruderWatch.AlertService
import IntruderWatch.Library.Uri
import IntruderWatch.Proofs.DetectorDecisions
import IntruderWatch.Proofs.ImageContainment

/-!
# Links to pictures

The detector names a picture, the alert service puts its path into a link, and the viewer reads the
link back to a path. The three agree on the path, but the link is never a URI: the time in the name
brings a space into it.
-/

namespace IntruderWatch.Proofs
open Py

/-! ### The parts of a link -/

/-- Letters, digits and hyphens. -/
def isHostChar (c : CodePoint) : Bool :=
  Uri.isAlphanumeric c || c.val = 45

/-- The characters in the names of folders and pictures, dots excepted. -/
def isNameChar (c : CodePoint) : Bool :=
  isHostChar c || c.val = 32 || c.val = 58 || c.val = 95

lemma isNameChar_of_host {c : CodePoint} (h : isHostChar c = true) : isNameChar c = true := by
  simp [isNameChar, h]

lemma isNameChar_of_decimal {c : CodePoint} (h : c.val = 45 ∨ (48 ≤ c.val ∧ c.val ≤ 57)) :
    isNameChar c = true := by
  apply isNameChar_of_host
  simp only [isHostChar, Uri.isAlphanumeric, Bool.or_eq_true, Bool.and_eq_true, decide_eq_true_eq]
  tauto

lemma isNameChar_val {c : CodePoint} (h : isNameChar c = true) :
    c.val < 128 ∧ c.val ≠ 35 ∧ c.val ≠ 37 ∧ c.val ≠ 46 ∧ c.val ≠ 47 ∧ c.val ≠ 63 ∧ c.val ≠ 92 := by
  simp only [isNameChar, isHostChar, Uri.isAlphanumeric, Bool.or_eq_true, Bool.and_eq_true,
    decide_eq_true_eq] at h
  omega

/-- A text of such characters. -/
def NameText (s : Str) : Prop :=
  ∀ c ∈ s, isNameChar c = true

lemma NameText.append {s t : Str} (hs : NameText s) (ht : NameText t) : NameText (s ++ t) := by
  intro c hc
  rcases List.mem_append.mp hc with hc | hc
  · exact hs c hc
  · exact ht c hc

lemma NameText.cons {c : CodePoint} {s : Str} (hc : isNameChar c = true) (hs : NameText s) :
    NameText (c :: s) := by
  intro d hd
  rcases List.mem_cons.mp hd with rfl | hd
  · exact hc
  · exact hs d hd

lemma nameText_lit {s : Str} (h : s.all isNameChar = true) : NameText s :=
  List.all_eq_true.mp h

lemma NameText.period_notMem {s : Str} (h : NameText s) : period ∉ s := by
  intro hmem
  exact (isNameChar_val (h period hmem)).2.2.2.1 rfl

/-- A segment of a link: no delimiter, no escape. -/
def SegmentText (s : Str) : Prop :=
  ∀ c ∈ s, c = period ∨ isNameChar c = true

lemma NameText.segment {s : Str} (h : NameText s) : SegmentText s :=
  fun c hc => Or.inr (h c hc)

lemma SegmentText.val {s : Str} (h : SegmentText s) {c : CodePoint} (hc : c ∈ s) :
    c.val < 128 ∧ c.val ≠ 35 ∧ c.val ≠ 37 ∧ c.val ≠ 47 ∧ c.val ≠ 63 ∧ c.val ≠ 92 := by
  rcases h c hc with rfl | hc
  · decide
  · have hval := isNameChar_val hc
    omega

lemma SegmentText.notMem {s : Str} (h : SegmentText s) {c : CodePoint}
    (hc : c.val = 35 ∨ c.val = 37 ∨ c.val = 47 ∨ c.val = 63 ∨ c.val = 92) : c ∉ s := by
  intro hmem
  have hval := h.val hmem
  omega

/-- The folder of a camera. -/
def cameraFolder (f : CapturedFrame) : Str :=
  lit "camera_" ++ decimal f.camera.val

/-- What stands between the dots of a picture's name. -/
def nameMiddle (instanceId : Str) (f : CapturedFrame) (time : DateTime) : Str :=
  padded 6 time.microsecond ++ lit "_" ++ (frameHash f).take 8 ++ lit "_" ++ instanceId.take 6

/-- The time up to the fraction of a second. -/
def nameStart (time : DateTime) : Str :=
  lit "det_" ++ time.dateText ++ ofChar ' ' :: padded 2 time.hour ++ ofChar ':' ::
    padded 2 time.minute ++ ofChar ':' :: padded 2 time.second

/-- The name of a picture. -/
def imageName (instanceId : Str) (f : CapturedFrame) (time : DateTime) : Str :=
  nameStart time ++ period :: (nameMiddle instanceId f time ++ period :: lit "jpg")

section Names

variable (f : CapturedFrame) (time : DateTime) {instanceId : Str}

lemma detectionPath_eq (instanceId : Str) : detectionPath instanceId f time =
    componentText [lit "app", lit "captures", cameraFolder f, time.dateText,
      imageName instanceId f time] := by
  have hroot : lit "/app/captures/camera_" =
      slash :: lit "app" ++ slash :: lit "captures" ++ slash :: lit "camera_" := rfl
  have hdet : lit "/det_" = slash :: lit "det_" := rfl
  have hjpg : lit ".jpg" = period :: lit "jpg" := rfl
  have hdot : ofChar '.' = period := rfl
  simp [detectionPath, componentText, cameraFolder, imageName, nameStart, nameMiddle, DateTime.text,
    DateTime.timeText, hroot, hdet, hjpg, hdot]

lemma nameText_cameraFolder : NameText (cameraFolder f) :=
  (nameText_lit (by decide)).append (fun _ hc => isNameChar_of_decimal (mem_decimal hc))

lemma nameText_dateText : NameText time.dateText :=
  fun _ hc => isNameChar_of_decimal (time.mem_dateText hc)

lemma nameText_padded (width n : ℕ) : NameText (padded width n) :=
  fun _ hc => isNameChar_of_decimal (Or.inr (mem_padded hc))

lemma nameText_frameHash : NameText (frameHash f) := by
  intro c hc
  obtain ⟨d, hd, hval⟩ := mem_asciiText hc
  have hrange := hexEncode_mem hd
  apply isNameChar_of_host
  simp only [isHostChar, Uri.isAlphanumeric, Bool.or_eq_true, Bool.and_eq_true, decide_eq_true_eq]
  omega

lemma nameText_nameMiddle (hhost : ∀ c ∈ instanceId, isHostChar c = true) :
    NameText (nameMiddle instanceId f time) := by
  have hunderscore : NameText (lit "_") := nameText_lit (by decide)
  have hhash : NameText ((frameHash f).take 8) :=
    fun c hc => nameText_frameHash f c (List.mem_of_mem_take hc)
  have hinstance : NameText (instanceId.take 6) :=
    fun c hc => isNameChar_of_host (hhost c (List.mem_of_mem_take hc))
  exact ((((nameText_padded 6 _).append hunderscore).append hhash).append hunderscore).append hinstance

lemma nameText_nameStart : NameText (nameStart time) := by
  have hcolon : isNameChar (ofChar ':') = true := by decide
  have hspace : isNameChar (ofChar ' ') = true := by decide
  exact ((((nameText_lit (by decide)).append (nameText_dateText time)).append
    ((nameText_padded 2 _).cons hspace)).append ((nameText_padded 2 _).cons hcolon)).append
    ((nameText_padded 2 _).cons hcolon)

lemma segmentText_imageName (hhost : ∀ c ∈ instanceId, isHostChar c = true) :
    SegmentText (imageName instanceId f time) := by
  intro c hc
  rw [imageName, List.mem_append, List.mem_cons, List.mem_append, List.mem_cons] at hc
  rcases hc with hc | hc | hc | hc | hc
  · exact Or.inr (nameText_nameStart time c hc)
  · exact Or.inl hc
  · exact Or.inr (nameText_nameMiddle f time hhost c hc)
  · exact Or.inl hc
  · exact Or.inr (nameText_lit (by decide) c hc)

/-- The space between date and time. -/
lemma space_mem_imageName (instanceId : Str) : ofChar ' ' ∈ imageName instanceId f time := by
  simp [imageName, nameStart]

end Names

/-! ### The path parameters are valid -/

lemma no_dots_of_notMem {s : Str} (h : period ∉ s) : ¬ [period, period] <:+: s := by
  intro hdots
  exact h (hdots.subset List.mem_cons_self)

lemma no_dots_append {s t : Str} (hs : period ∉ s) (ht : ¬ [period, period] <:+: t)
    (hhead : t.head? ≠ some period) : ¬ [period, period] <:+: s ++ period :: t := by
  induction s with
  | nil =>
    rw [List.nil_append, List.infix_cons_iff, not_or]
    refine ⟨?_, ht⟩
    intro hstart
    obtain ⟨rest, hrest⟩ := (List.cons_prefix_cons.mp hstart).2
    rw [← hrest] at hhead
    exact hhead rfl
  | cons c s ih =>
    rw [List.mem_cons, not_or] at hs
    rw [List.cons_append, List.infix_cons_iff, not_or]
    refine ⟨?_, ih hs.2⟩
    intro hstart
    exact hs.1 (List.cons_prefix_cons.mp hstart).1

lemma SegmentText.valid {s : Str} (h : SegmentText s) (hne : s ≠ []) (hdots : ¬ [period, period] <:+: s) :
    ValidSegment s := by
  have hslash : slash ∉ s := h.notMem (by decide)
  have hbackslash : backslash ∉ s := h.notMem (by decide)
  exact ⟨hne, invalidCharacter_eq_false.mpr ⟨hdots, hslash, hbackslash⟩⟩

lemma ValidSegment.isName {s : Str} (h : ValidSegment s) (hperiod : s ≠ [period]) : IsName s :=
  ⟨h.1, hperiod, (invalidCharacter_eq_false.mp h.2).2.1⟩

lemma NameText.valid {s : Str} (h : NameText s) (hne : s ≠ []) : ValidSegment s :=
  h.segment.valid hne (no_dots_of_notMem h.period_notMem)

section Valid

variable (f : CapturedFrame) (time : DateTime) {instanceId : Str}

lemma valid_cameraFolder : ValidSegment (cameraFolder f) :=
  (nameText_cameraFolder f).valid (by simp [cameraFolder, lit])

lemma valid_dateText : ValidSegment time.dateText :=
  (nameText_dateText time).valid time.dateText_ne_nil

lemma valid_imageName (hhost : ∀ c ∈ instanceId, isHostChar c = true) :
    ValidSegment (imageName instanceId f time) := by
  have hmiddle := nameText_nameMiddle f time hhost
  have hjpg : ¬ [period, period] <:+: nameMiddle instanceId f time ++ period :: lit "jpg" :=
    no_dots_append hmiddle.period_notMem (by decide) (by decide)
  have hhead : (nameMiddle instanceId f time ++ period :: lit "jpg").head? ≠ some period := by
    intro hhead
    cases hcase : nameMiddle instanceId f time with
    | nil => simp [nameMiddle, lit] at hcase
    | cons c rest =>
      rw [hcase] at hhead hmiddle
      obtain rfl := Option.some.inj hhead
      exact hmiddle.period_notMem List.mem_cons_self
  exact (segmentText_imageName f time hhost).valid (by simp [imageName])
    (no_dots_append (nameText_nameStart time).period_notMem hjpg hhead)

end Valid

/-! ### The link -/

section Links

variable {Image : Type} {denv : DetectorEnv Image} {aenv : AlertEnv} {viewer : ViewerConfig}
  {f : CapturedFrame} {time : DateTime}

/-- The path behind the domain. -/
def linkPath (instanceId : Str) (f : CapturedFrame) (time : DateTime) : Str :=
  lit "images/" ++ cameraFolder f ++ slash :: time.dateText ++ slash :: imageName instanceId f time

/-- The slashes of a detection path are those between its parts. -/
lemma split_detectionPath (hhost : ∀ c ∈ denv.instanceId, isHostChar c = true) :
    split slash (detectionPath denv.instanceId f time) =
      [[], lit "app", lit "captures", cameraFolder f, time.dateText,
        imageName denv.instanceId f time] := by
  rw [detectionPath_eq]
  apply split_componentText
  intro part hpart
  simp only [List.mem_cons, List.not_mem_nil, or_false] at hpart
  rcases hpart with rfl | rfl | rfl | rfl | rfl
  · decide
  · decide
  · exact (nameText_cameraFolder f).segment.notMem (by decide)
  · exact (nameText_dateText time).segment.notMem (by decide)
  · exact (segmentText_imageName f time hhost).notMem (by decide)

lemma imageUrl_detectionPath (hhost : ∀ c ∈ denv.instanceId, isHostChar c = true) :
    aenv.imageUrl (detectionPath denv.instanceId f time) =
      some (if aenv.imageAccessCode = [] then
          aenv.viewerPublicUrl ++ slash :: linkPath denv.instanceId f time
        else aenv.viewerPublicUrl ++ slash :: linkPath denv.instanceId f time ++ lit "?token=" ++
          aenv.imageAccessCode) := by
  have himages : lit "/images/" = slash :: lit "images/" := rfl
  rw [AlertEnv.imageUrl, split_detectionPath hhost, linkPath, himages]
  simp

/-- The link leads back to the file: its path names the file, and its token is the one of the viewer
and admits the request. -/
def LinkReads (viewer : ViewerConfig) (url filename : Str) : Prop :=
  ∃ location camera date file token, Uri.parse url = some location ∧
    location.segments = [lit "images", camera, date, file] ∧
    location.param (lit "token") = some token ∧ viewer.alertBypassToken = some token ∧
    (requestPath camera date file).text = filename ∧
    ∀ request now, Admitted viewer camera date file (some token) request now

/-- The link for a detection in the frame is a URI that leads back to the file. -/
def AlertLinkRoundTrips (denv : DetectorEnv Image) (aenv : AlertEnv) (viewer : ViewerConfig)
    (f : CapturedFrame) (time : DateTime) : Prop :=
  ∃ filename url, denv.detectionFile (frameLocals f) time.text = .ok filename ∧
    aenv.imageUrl filename = some url ∧ Uri.wellFormed url = true ∧ LinkReads viewer url filename

lemma link_not_wellFormed (hhost : ∀ c ∈ denv.instanceId, isHostChar c = true) {url : Str}
    (h : aenv.imageUrl (detectionPath denv.instanceId f time) = some url) :
    Uri.wellFormed url = false := by
  have hpath : ofChar ' ' ∈ linkPath denv.instanceId f time :=
    List.mem_append_right _ (List.mem_cons_of_mem _ (space_mem_imageName f time _))
  have hspace : ofChar ' ' ∈ url := by
    rw [imageUrl_detectionPath hhost] at h
    obtain rfl := Option.some.inj h
    split_ifs with hcode
    · exact List.mem_append_right _ (List.mem_cons_of_mem _ hpath)
    · exact List.mem_append_left _ (List.mem_append_left _
        (List.mem_append_right _ (List.mem_cons_of_mem _ hpath)))
  exact Uri.not_wellFormed hspace (by decide) (by decide) (by decide)

/-- No link to a picture of the detector is a URI, so none makes the round trip. -/
theorem alert_link_never_round_trips (denv : DetectorEnv Image) (aenv : AlertEnv)
    (viewer : ViewerConfig) (f : CapturedFrame) (time : DateTime)
    (hhost : ∀ c ∈ denv.instanceId, isHostChar c = true) :
    ¬ AlertLinkRoundTrips denv aenv viewer f time := by
  rintro ⟨filename, url, hfile, hurl, hwell, -⟩
  rw [detectionFile_frame] at hfile
  obtain rfl := Except.ok.inj hfile
  rw [link_not_wellFormed hhost hurl] at hwell
  cases hwell

end Links

/-! ### A concrete link -/

section Sample

def nightTime : DateTime :=
  ⟨2026, 10, 3, 2, 15, 30, 0, by norm_num⟩

def bypassAlertEnv : AlertEnv :=
  { defaultAlertEnv with imageAccessCode := lit "bypass" }

lemma worker_hostname : ∀ c ∈ onePersonEnv.instanceId, isHostChar c = true :=
  List.all_eq_true.mp (by decide)

def nightLink : Str :=
  lit "https://watch.yourdomain.com/images/camera_1/2026-10-03/" ++
    lit "det_2026-10-03 02:15:30.000000_abababab_worker.jpg?token=bypass"

/-- The link for a frame of camera 1, with the space before the time. -/
theorem night_link_not_wellFormed :
    bypassAlertEnv.imageUrl
        (detectionPath onePersonEnv.instanceId (stillFrame firstCamera) nightTime) = some nightLink ∧
      Uri.wellFormed nightLink = false ∧
      ¬ AlertLinkRoundTrips onePersonEnv bypassAlertEnv tokenConfig (stillFrame firstCamera) nightTime := by
  have hlink : bypassAlertEnv.imageUrl
      (detectionPath onePersonEnv.instanceId (stillFrame firstCamera) nightTime) = some nightLink := by
    rw [imageUrl_detectionPath worker_hostname]
    rfl
  have hwell := link_not_wellFormed worker_hostname hlink
  refine ⟨hlink, hwell, ?_⟩
  rintro ⟨filename, url, hfile, hurl, hyes, -⟩
  rw [detectionFile_frame] at hfile
  obtain rfl := Except.ok.inj hfile
  obtain rfl := Option.some.inj (hlink.symm.trans hurl)
  rw [hwell] at hyes
  cases hyes

theorem alert_link_never_round_trips_night :
    ¬ AlertLinkRoundTrips onePersonEnv bypassAlertEnv tokenConfig (stillFrame firstCamera) nightTime :=
  alert_link_never_round_trips onePersonEnv bypassAlertEnv tokenConfig (stillFrame firstCamera)
    nightTime worker_hostname

end Sample

/-! ### A lenient reading -/

section Reading

variable {Image : Type} {denv : DetectorEnv Image} {aenv : AlertEnv} {viewer : ViewerConfig}
  {f : CapturedFrame} {time : DateTime}

lemma percentDecode_segment {s : Str} (h : SegmentText s) : Uri.percentDecode s = some s := by
  apply Uri.percentDecode_self (h.notMem (by decide))
  intro c hc
  exact isSurrogate_of_ascii (h.val hc).1

lemma isUnreserved_val {c : CodePoint} (h : Uri.isUnreserved c = true) :
    c.val < 128 ∧ c.val ≠ 35 ∧ c.val ≠ 37 ∧ c.val ≠ 38 ∧ c.val ≠ 43 := by
  have hlit : ∀ d ∈ lit "-._~", d.val < 128 ∧ d.val ≠ 35 ∧ d.val ≠ 37 ∧ d.val ≠ 38 ∧ d.val ≠ 43 := by
    simp [lit, ofChar]
  rw [Uri.isUnreserved, Bool.or_eq_true, List.any_eq_true] at h
  rcases h with h | ⟨d, hd, heq⟩
  · simp only [Uri.isAlphanumeric, Bool.or_eq_true, Bool.and_eq_true, decide_eq_true_eq] at h
    omega
  · rw [← of_decide_eq_true heq]
    exact hlit d hd

lemma linkPath_notMem (hhost : ∀ c ∈ denv.instanceId, isHostChar c = true) {c : CodePoint}
    (hc : c.val = 35 ∨ c.val = 63) : c ∉ linkPath denv.instanceId f time := by
  have hvals : ∀ d ∈ lit "images/", d.val ≠ 35 ∧ d.val ≠ 63 := by
    simp [lit, ofChar]
  have himages : c ∉ lit "images/" := by
    intro hmem
    have hval := hvals c hmem
    omega
  have hslash : c ≠ slash := by
    rintro rfl
    revert hc
    decide
  have hcamera := (nameText_cameraFolder f).segment.notMem (c := c) (by omega)
  have hdate := (nameText_dateText time).segment.notMem (c := c) (by omega)
  have himage := (segmentText_imageName f time hhost).notMem (c := c) (by omega)
  simp only [linkPath, List.mem_append, List.mem_cons, not_or]
  exact ⟨⟨⟨himages, hcamera⟩, hslash, hdate⟩, hslash, himage⟩

lemma split_linkPath (hhost : ∀ c ∈ denv.instanceId, isHostChar c = true) :
    split slash (linkPath denv.instanceId f time) =
      [lit "images", cameraFolder f, time.dateText, imageName denv.instanceId f time] := by
  have himages : lit "images/" = lit "images" ++ [slash] := rfl
  have hlink : linkPath denv.instanceId f time = lit "images" ++ slash :: (cameraFolder f ++
      slash :: (time.dateText ++ slash :: imageName denv.instanceId f time)) := by
    simp [linkPath, himages]
  have hcamera := (nameText_cameraFolder f).segment.notMem (c := slash) (by decide)
  have hdate := (nameText_dateText time).segment.notMem (c := slash) (by decide)
  have himage := (segmentText_imageName f time hhost).notMem (c := slash) (by decide)
  rw [hlink, split_append (by decide), split_append hcamera, split_append hdate,
    split_of_notMem himage]

lemma segments_link (hhost : ∀ c ∈ denv.instanceId, isHostChar c = true) :
    (split slash (linkPath denv.instanceId f time)).mapM Uri.percentDecode =
      some [lit "images", cameraFolder f, time.dateText, imageName denv.instanceId f time] := by
  have himages : Uri.percentDecode (lit "images") = some (lit "images") := by rfl
  have hcamera := percentDecode_segment (nameText_cameraFolder f).segment
  have hdate := percentDecode_segment (nameText_dateText time).segment
  have himage := percentDecode_segment (segmentText_imageName f time hhost)
  rw [split_linkPath hhost]
  simp [himages, hcamera, hdate, himage]

lemma query_token {token : Str} (htoken : ∀ c ∈ token, Uri.isUnreserved c = true) :
    ((split (ofChar '&') (lit "token=" ++ token)).filter (· ≠ [])).mapM Uri.decodePair =
      some [(lit "token", token)] := by
  have hvals := fun c hc => isUnreserved_val (htoken c hc)
  have hform : Uri.formDecode token = some token := by
    apply Uri.formDecode_self
    · intro hmem
      exact (hvals _ hmem).2.2.1 rfl
    · intro hmem
      exact (hvals _ hmem).2.2.2.2 rfl
    · intro c hc
      exact isSurrogate_of_ascii (hvals c hc).1
  have hsplit : split (ofChar '&') (lit "token=" ++ token) = [lit "token=" ++ token] := by
    apply split_of_notMem
    rw [List.mem_append, not_or]
    exact ⟨by decide, fun hmem => (hvals _ hmem).2.2.2.1 rfl⟩
  have hpair : Uri.decodePair (lit "token=" ++ token) = some (lit "token", token) := by
    have hlit : lit "token=" ++ token = lit "token" ++ ofChar '=' :: token := rfl
    have hname : Uri.formDecode (lit "token") = some (lit "token") := by rfl
    rw [Uri.decodePair, hlit, splitFirst_append (by decide) token]
    simp [hname, hform]
  have hfilter : [lit "token=" ++ token].filter (· ≠ []) = [lit "token=" ++ token] := by
    apply List.filter_eq_self.mpr
    intro pair hmem
    rw [List.mem_singleton.mp hmem]
    exact decide_eq_true (List.cons_ne_nil _ _)
  rw [hsplit, hfilter]
  simp only [List.mapM_cons, List.mapM_nil, hpair]
  rfl

/-- The segments and the token of a link, read with the space standing for itself. -/
lemma parse_link (hhost : ∀ c ∈ denv.instanceId, isHostChar c = true) {authority token : Str}
    (hslash : slash ∉ authority) (hquestion : ofChar '?' ∉ authority)
    (hhash : ofChar '#' ∉ authority) (htoken : ∀ c ∈ token, Uri.isUnreserved c = true) :
    Uri.parse (lit "https://" ++ (authority ++ slash :: linkPath denv.instanceId f time) ++
        ofChar '?' :: (lit "token=" ++ token)) =
      some ⟨[lit "images", cameraFolder f, time.dateText, imageName denv.instanceId f time],
        [(lit "token", token)]⟩ := by
  have hpath : ofChar '?' ∉ linkPath denv.instanceId f time := linkPath_notMem hhost (by decide)
  have hpath' : ofChar '#' ∉ linkPath denv.instanceId f time := linkPath_notMem hhost (by decide)
  have htokenHash : ofChar '#' ∉ token := fun hmem => (isUnreserved_val (htoken _ hmem)).2.1 rfl
  have hhier : ofChar '?' ∉ authority ++ slash :: linkPath denv.instanceId f time := by
    rw [List.mem_append, List.mem_cons, not_or, not_or]
    exact ⟨hquestion, by decide, hpath⟩
  have hrest : ofChar '#' ∉ authority ++ slash :: linkPath denv.instanceId f time ++
      ofChar '?' :: (lit "token=" ++ token) := by
    simp only [List.mem_append, List.mem_cons, not_or]
    exact ⟨⟨hhash, by decide, hpath'⟩, by decide, by decide, htokenHash⟩
  rw [Uri.parse_eq hslash hhier hrest, segments_link hhost, query_token htoken]
  rfl

/-- Read leniently, the link leads back to the file, for every token of unreserved characters. -/
theorem alert_link_reads (hhost : ∀ c ∈ denv.instanceId, isHostChar c = true) {authority : Str}
    (hpublic : aenv.viewerPublicUrl = lit "https://" ++ authority) (hslash : slash ∉ authority)
    (hquestion : ofChar '?' ∉ authority) (hhash : ofChar '#' ∉ authority)
    (hshared : viewer.alertBypassToken = some aenv.imageAccessCode) (hne : aenv.imageAccessCode ≠ [])
    (htoken : ∀ c ∈ aenv.imageAccessCode, Uri.isUnreserved c = true) :
    ∃ url, aenv.imageUrl (detectionPath denv.instanceId f time) = some url ∧
      LinkReads viewer url (detectionPath denv.instanceId f time) := by
  have hurl : aenv.viewerPublicUrl ++ slash :: linkPath denv.instanceId f time ++ lit "?token=" ++
      aenv.imageAccessCode = lit "https://" ++ (authority ++ slash :: linkPath denv.instanceId f time) ++
        ofChar '?' :: (lit "token=" ++ aenv.imageAccessCode) := by
    have hlit : lit "?token=" = ofChar '?' :: lit "token=" := rfl
    simp only [hpublic, hlit, List.append_assoc, List.cons_append]
  have hcamera := valid_cameraFolder f
  have hdate := valid_dateText time
  have himage := valid_imageName f time hhost
  have hperiod : ∀ {s : Str}, NameText s → s ≠ [period] := by
    rintro s hs rfl
    exact hs.period_notMem List.mem_cons_self
  have himagePeriod : imageName denv.instanceId f time ≠ [period] := by
    intro heq
    have hspace := space_mem_imageName f time denv.instanceId
    rw [heq] at hspace
    revert hspace
    decide
  refine ⟨_, imageUrl_detectionPath hhost, ⟨_, [(lit "token", aenv.imageAccessCode)]⟩,
    cameraFolder f, time.dateText, imageName denv.instanceId f time, aenv.imageAccessCode, ?_, rfl,
    by simp [Uri.Location.param], hshared, ?_, ?_⟩
  · rw [if_neg hne, hurl]
    exact parse_link hhost hslash hquestion hhash htoken
  · rw [requestPath_eq (hcamera.isName (hperiod (nameText_cameraFolder f)))
      (hdate.isName (hperiod (nameText_dateText time))) (himage.isName himagePeriod), text_absolute,
      if_neg (List.cons_ne_nil _ _), detectionPath_eq]
  · intro request now
    refine ⟨hcamera, hdate, himage, ?_⟩
    simp [ViewerConfig.imageAuthenticated, ViewerConfig.isBypass, hshared, truthyText, hne]

end Reading

end IntruderWatch.Proofs
