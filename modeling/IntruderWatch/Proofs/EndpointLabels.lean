import IntruderWatch.Monitoring
import Mathlib.Data.Set.Finite.Basic

/-!
# Endpoint labels

The split of a path has a first piece in front of the first slash, so the lists of dates and of
images have five and seven pieces instead of four and six. The label of a path is bounded if and
only if the path is classified or is itself the path of a route; in particular the lists of dates
and of images are recorded under their own paths.
-/

namespace IntruderWatch.Proofs
open Py Interaction

/-! ### Paths -/

/-- A request for the dates of a camera. -/
def IsDates (path : Str) : Prop :=
  ∃ camera, camera ≠ [] ∧ slash ∉ camera ∧
    path = lit "/api/cameras/" ++ (camera ++ lit "/dates")

/-- A request for the images of a camera and a date. -/
def IsImages (path : Str) : Prop :=
  ∃ camera date, camera ≠ [] ∧ slash ∉ camera ∧ date ≠ [] ∧ slash ∉ date ∧
    path = lit "/api/cameras/" ++ (camera ++ (lit "/dates/" ++ (date ++ lit "/images")))

/-- The path of an image, or one behind `/api/cameras/` with four or six pieces. -/
def Classified (path : Str) : Prop :=
  lit "/images/" <+: path ∨
    lit "/api/cameras/" <+: path ∧ (path.count slash = 3 ∨ path.count slash = 5)

/-- What is asked of the label of a path: it is one of the routes, and the lists of dates and of
images have theirs. -/
structure LabelBounded (path label : Str) : Prop where
  route : label ∈ routes
  dates : IsDates path → label = datesTemplate
  images : IsImages path → label = imagesTemplate

lemma IsDates.count {path : Str} (h : IsDates path) : path.count slash = 4 := by
  obtain ⟨camera, -, hcamera, rfl⟩ := h
  have hfront : (lit "/api/cameras/").count slash = 3 := by decide
  have hback : (lit "/dates").count slash = 1 := by decide
  rw [List.count_append, List.count_append, List.count_eq_zero_of_not_mem hcamera, hfront, hback]

lemma IsImages.count {path : Str} (h : IsImages path) : path.count slash = 6 := by
  obtain ⟨camera, date, -, hcamera, -, hdate, rfl⟩ := h
  have hfront : (lit "/api/cameras/").count slash = 3 := by decide
  have hmiddle : (lit "/dates/").count slash = 2 := by decide
  have hback : (lit "/images").count slash = 1 := by decide
  rw [List.count_append, List.count_append, List.count_append, List.count_append,
    List.count_eq_zero_of_not_mem hcamera, List.count_eq_zero_of_not_mem hdate, hfront, hmiddle,
    hback]

lemma IsDates.isPrefix {path : Str} (h : IsDates path) : lit "/api/cameras/" <+: path := by
  obtain ⟨camera, -, -, rfl⟩ := h
  exact List.prefix_append _ _

lemma IsImages.isPrefix {path : Str} (h : IsImages path) : lit "/api/cameras/" <+: path := by
  obtain ⟨camera, date, -, -, -, -, rfl⟩ := h
  exact List.prefix_append _ _

/-- A path below `/api/cameras/` is no path of an image. -/
lemma not_image_of_cameras {path : Str} (h : lit "/api/cameras/" <+: path) :
    ¬ lit "/images/" <+: path := by
  intro himage
  rcases List.prefix_or_prefix_of_prefix h himage with h' | h'
  · revert h'
    decide
  · revert h'
    decide

lemma not_classified {path : Str} (hstarts : lit "/api/cameras/" <+: path)
    (hcount : path.count slash = 4 ∨ path.count slash = 6) : ¬ Classified path := by
  rintro (himage | ⟨-, hpieces⟩)
  · exact not_image_of_cameras hstarts himage
  · omega

/-! ### Labels -/

lemma endpointLabel_mem_routes {path : Str} (h : Classified path) : endpointLabel path ∈ routes := by
  unfold endpointLabel
  dsimp only
  rw [length_split]
  rcases h with himage | ⟨hcameras, hpieces⟩
  · rw [if_pos (List.isPrefixOf_iff_prefix.mpr himage)]
    decide
  · rw [if_neg (fun himage => not_image_of_cameras hcameras (List.isPrefixOf_iff_prefix.mp himage)),
      if_pos (List.isPrefixOf_iff_prefix.mpr hcameras)]
    rcases hpieces with hpieces | hpieces
    · rw [hpieces, if_pos rfl]
      decide
    · rw [hpieces, if_neg (by decide), if_pos rfl]
      decide

lemma endpointLabel_of_not_classified {path : Str} (h : ¬ Classified path) :
    endpointLabel path = path := by
  unfold Classified at h
  push Not at h
  obtain ⟨himage, hpieces⟩ := h
  unfold endpointLabel
  dsimp only
  rw [length_split, if_neg (fun hstarts => himage (List.isPrefixOf_iff_prefix.mp hstarts))]
  split_ifs with hcameras hfour hsix
  · exact absurd (by omega) (hpieces (List.isPrefixOf_iff_prefix.mp hcameras)).1
  · exact absurd (by omega) (hpieces (List.isPrefixOf_iff_prefix.mp hcameras)).2
  · rfl
  · rfl

/-- Among the routes the templates are the only ones with five and with seven pieces. -/
lemma routes_templates : ∀ route ∈ routes, lit "/api/cameras/" <+: route →
    (route.count slash = 4 → route = datesTemplate) ∧
      (route.count slash = 6 → route = imagesTemplate) := by
  decide

lemma labelBounded_iff (path : Str) :
    LabelBounded path (endpointLabel path) ↔ Classified path ∨ path ∈ routes := by
  constructor
  · intro h
    rw [or_iff_not_imp_left]
    intro hraw
    rw [← endpointLabel_of_not_classified hraw]
    exact h.route
  · intro h
    by_cases hclassified : Classified path
    · refine ⟨endpointLabel_mem_routes hclassified, ?_, ?_⟩
      · intro hdates
        exact absurd hclassified (not_classified hdates.isPrefix (Or.inl hdates.count))
      · intro himages
        exact absurd hclassified (not_classified himages.isPrefix (Or.inr himages.count))
    · have hroute := h.resolve_left hclassified
      rw [endpointLabel_of_not_classified hclassified]
      refine ⟨hroute, ?_, ?_⟩
      · intro hdates
        exact (routes_templates path hroute hdates.isPrefix).1 hdates.count
      · intro himages
        exact (routes_templates path hroute himages.isPrefix).2 himages.count

/-! ### The middleware -/

section Recorded

variable {method path label : Str} {t : MonitorTrace} {r : Except Exn ℕ}

/-- Whatever is recorded has the label of the path. -/
lemma recorded_label (h : Exec (monitorRequests method path) () t r ())
    (hlabel : label ∈ recordedEndpoints t) : label = endpointLabel path := by
  unfold monitorRequests at h
  obtain ⟨answer, t₁, rfl, hanswer⟩ := exec_perform_bind.mp h
  rcases exec_evaluate_bind.mp hanswer with ⟨e, -, rfl, -, -⟩ | ⟨statusCode, -, hmetrics⟩
  · cases hlabel
  obtain ⟨⟨⟩, t₂, rfl, hlatency⟩ := exec_perform_bind.mp hmetrics
  obtain ⟨⟨⟩, t₃, rfl, hreturn⟩ := exec_perform_bind.mp hlatency
  obtain ⟨rfl, -, -⟩ := exec_pure.mp hreturn
  have hrecorded : label ∈ [endpointLabel path, endpointLabel path] := hlabel
  simpa using hrecorded

/-- The labels that requests for these paths can leave behind. -/
def recordedFor (paths : Set Str) : Set Str :=
  {label | ∃ path ∈ paths, ∃ method t r, Exec (monitorRequests method path) () t r () ∧
    label ∈ recordedEndpoints t}

lemma recordedFor_eq (paths : Set Str) : recordedFor paths = endpointLabel '' paths := by
  ext label
  constructor
  · rintro ⟨path, hpath, method, t, r, h, hlabel⟩
    exact ⟨path, hpath, (recorded_label h hlabel).symm⟩
  · rintro ⟨path, hpath, rfl⟩
    refine ⟨path, hpath, lit "GET", [⟨.callNext, Except.ok 200⟩,
      ⟨.httpRequestsTotal (lit "GET") (endpointLabel path) (decimal 200), ()⟩,
      ⟨.requestLatency (endpointLabel path), ()⟩], .ok 200, .call <| .call <| .call <| .ret _, ?_⟩
    exact List.mem_cons_self

/-- Finitely many labels come from finitely many raw paths. -/
lemma labels_finite_iff (paths : Set Str) :
    (endpointLabel '' paths).Finite ↔ {path ∈ paths | ¬ Classified path}.Finite := by
  constructor
  · intro h
    apply h.subset
    rintro path ⟨hpath, hraw⟩
    exact ⟨path, hpath, endpointLabel_of_not_classified hraw⟩
  · intro h
    apply ((List.finite_toSet routes).union h).subset
    rintro label ⟨path, hpath, rfl⟩
    by_cases hclassified : Classified path
    · exact Or.inl (endpointLabel_mem_routes hclassified)
    · rw [endpointLabel_of_not_classified hclassified]
      exact Or.inr ⟨hpath, hclassified⟩

/-- Whatever the paths of the requests: a recorded label is bounded if and only if its path is classified
or is the path of a route, and the requests leave finitely many labels behind if and only if finitely
many of the paths are not classified. -/
theorem endpoint_bounded_iff (paths : Set Str) :
    (∀ path ∈ paths, ∀ method t r label, Exec (monitorRequests method path) () t r () →
      label ∈ recordedEndpoints t → (LabelBounded path label ↔ Classified path ∨ path ∈ routes)) ∧
    ((recordedFor paths).Finite ↔ {path ∈ paths | ¬ Classified path}.Finite) := by
  constructor
  · intro path _ method t r label h hlabel
    rw [recorded_label h hlabel]
    exact labelBounded_iff path
  · rw [recordedFor_eq]
    exact labels_finite_iff paths

end Recorded

/-! ### Raw paths -/

lemma not_classified_of_count {path : Str} (h : path.count slash ≤ 1) : ¬ Classified path := by
  have himages : (lit "/images/").count slash = 2 := by decide
  have hcameras : (lit "/api/cameras/").count slash = 3 := by decide
  rintro (hstarts | ⟨hstarts, -⟩)
  · have hle := hstarts.sublist.count_le slash
    omega
  · have hle := hstarts.sublist.count_le slash
    omega

/-- The paths `/`, `/a`, `/aa` and so on. -/
def rawPath (n : ℕ) : Str := slash :: List.replicate n (ofChar 'a')

lemma rawPath_not_classified (n : ℕ) : ¬ Classified (rawPath n) := by
  apply not_classified_of_count
  have hletter : ofChar 'a' ≠ slash := by decide
  rw [rawPath, List.count_cons_self, List.count_replicate, if_neg (by simpa using hletter)]

lemma rawPath_injective : Function.Injective rawPath := by
  intro n m h
  simpa [rawPath] using congrArg List.length h

lemma recordedFor_infinite : (recordedFor Set.univ).Infinite := by
  intro hfinite
  rw [recordedFor_eq, labels_finite_iff] at hfinite
  have hraw : ∀ n, rawPath n ∈ {path ∈ (Set.univ : Set Str) | ¬ Classified path} :=
    fun n => ⟨Set.mem_univ _, rawPath_not_classified n⟩
  exact Set.infinite_of_injective_forall_mem rawPath_injective hraw hfinite

def datesPath : Str := lit "/api/cameras/camera_1/dates"

lemma datesPath_isDates : IsDates datesPath :=
  ⟨lit "camera_1", by decide, by decide, rfl⟩

/-- No finite set holds all labels, and the dates of `camera_1` are recorded under their own path. -/
theorem rawPaths_unbounded :
    (¬ ∃ labels : Finset Str, ∀ method path t r label,
      Exec (monitorRequests method path) () t r () → label ∈ recordedEndpoints t → label ∈ labels) ∧
    ¬ ∀ method path t r label, Exec (monitorRequests method path) () t r () →
      label ∈ recordedEndpoints t → IsDates path → label = datesTemplate := by
  constructor
  · rintro ⟨labels, hlabels⟩
    apply recordedFor_infinite
    apply labels.finite_toSet.subset
    rintro label ⟨path, -, method, t, r, h, hlabel⟩
    exact hlabels method path t r label h hlabel
  · intro hall
    obtain ⟨path, hpath, method, t, r, h, hlabel⟩ : datesPath ∈ recordedFor {datesPath} := by
      rw [recordedFor_eq]
      exact ⟨datesPath, rfl, rfl⟩
    obtain rfl : path = datesPath := hpath
    have hlabel := hall method datesPath t r datesPath h hlabel datesPath_isDates
    exact absurd hlabel (by decide)

end IntruderWatch.Proofs
