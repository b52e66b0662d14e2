import IntruderWatch.ViewerPage

/-!
# The picture in the lightbox and its index

The lightbox remembers its picture by an index into a list that every answer replaces. The index
keeps pointing to the picture along exactly the runs in which no list moves it.
-/

namespace IntruderWatch.Proofs
open Transition Page

variable {s s' : Page}

/-! ### Indices -/

/-- Each name has one index. -/
lemma imageAt_eq_some_iff {index : ℤ} {img : Name} : s.imageAt index = some img ↔
    img ∈ s.allImages.val ∧ index = s.allImages.val.idxOf img := by
  have hnodup := s.allImages.2
  unfold imageAt
  constructor
  · intro h
    split at h
    · cases h
    · next hpos =>
      obtain ⟨hlt, himg⟩ := List.getElem?_eq_some_iff.mp h
      refine ⟨himg ▸ List.getElem_mem hlt, ?_⟩
      rw [← himg, hnodup.idxOf_getElem]
      omega
  · rintro ⟨hmem, rfl⟩
    rw [if_neg (by omega), Int.toNat_natCast, List.getElem?_idxOf hmem]

/-- The page takes `img` to be the picture on display: for copying and for its neighbours. -/
structure TakenFor (s : Page) (img : Name) : Prop where
  index : s.imageAt s.currentIndex = some img
  copied : s.copyFilename.clipboard = some img
  next : ∀ front img' back, s.allImages.val = front ++ img :: img' :: back →
    (s.navigate 1).lightbox = some (s.createImageCard img')
  previous : ∀ front img' back, s.allImages.val = front ++ img' :: img :: back →
    (s.navigate (-1)).lightbox = some (s.createImageCard img')
  last : ∀ front, s.allImages.val = front ++ [img] → s.navigate 1 = s
  first : ∀ back, s.allImages.val = img :: back → s.navigate (-1) = s

/-- The index of an image behind some front part of the list. -/
lemma index_of_split {front back : List Name} {img : Name}
    (h : s.allImages.val = front ++ img :: back) :
    s.imageAt front.length = some img ∧ s.allImages.val.idxOf img = front.length := by
  have himg : s.imageAt front.length = some img := by
    rw [imageAt, if_neg (by omega), Int.toNat_natCast, h, List.getElem?_append_right le_rfl]
    simp
  have hindex := (imageAt_eq_some_iff.mp himg).2
  exact ⟨himg, by omega⟩

lemma imageAt_lt {index : ℤ} {img : Name} (h : s.imageAt index = some img) :
    0 ≤ index ∧ index < s.allImages.val.length := by
  obtain ⟨hmem, rfl⟩ := imageAt_eq_some_iff.mp h
  have hlt := List.idxOf_lt_length_of_mem hmem
  omega

lemma openLightbox_of_imageAt {index : ℤ} {img : Name} (h : s.imageAt index = some img) :
    s.openLightbox index =
      { s with currentIndex := index, lightbox := some (s.createImageCard img) } := by
  rw [openLightbox, h]

lemma navigate_of_imageAt {dir : ℤ} {img : Name} (h : s.imageAt (s.currentIndex + dir) = some img) :
    (s.navigate dir).lightbox = some (s.createImageCard img) := by
  have hrange : 0 ≤ s.currentIndex + dir ∧ s.currentIndex + dir < s.allImages.val.length :=
    imageAt_lt h
  rw [Page.navigate]
  rw [if_pos hrange, openLightbox_of_imageAt h]

/-- The index decides about all of it. -/
lemma takenFor_iff {img : Name} : TakenFor s img ↔ s.imageAt s.currentIndex = some img := by
  refine ⟨TakenFor.index, fun h => ?_⟩
  have hindex := (imageAt_eq_some_iff.mp h).2
  refine ⟨h, by rw [Page.copyFilename, h], ?_, ?_, ?_, ?_⟩
  · intro front img' back hlist
    have hhere := (index_of_split hlist).2
    have hlist' : s.allImages.val = (front ++ [img]) ++ img' :: back := by
      rw [hlist, List.append_assoc, List.singleton_append]
    have hnext := (index_of_split hlist').1
    rw [List.length_append, List.length_singleton] at hnext
    apply navigate_of_imageAt
    rw [hindex, hhere, ← hnext, Nat.cast_add, Nat.cast_one]
  · intro front img' back hlist
    have hlist' : s.allImages.val = (front ++ [img']) ++ img :: back := by
      rw [hlist, List.append_assoc, List.singleton_append]
    have hhere := (index_of_split hlist').2
    rw [List.length_append, List.length_singleton] at hhere
    apply navigate_of_imageAt
    rw [hindex, hhere, ← (index_of_split hlist).1]
    congr 1
    push_cast
    ring
  · intro front hlist
    have hhere := (index_of_split hlist).2
    rw [Page.navigate]
    rw [if_neg]
    rw [hindex, hhere, hlist, List.length_append, List.length_singleton]
    push_cast
    omega
  · intro back hlist
    have hhere : s.allImages.val.idxOf img = 0 := by rw [hlist, List.idxOf_cons_self]
    rw [Page.navigate]
    rw [if_neg]
    rw [hindex, hhere]
    omega

/-- Whenever the picture on display is in the list, it is the one at the index. -/
def KeepsIdentity (s : Page) : Prop :=
  ∀ p, s.lightbox = some p → p.name ∈ s.allImages.val → TakenFor s p.name

/-- The event moves nothing away from under the open lightbox: a list that contains the picture has it
at the index, and the card clicked behind the lightbox is in the list. -/
def KeepsPlace (s : Page) : PageEvent → Prop
  | .answer (.images _ _) (.list newImages) _ => ∀ p, s.lightbox = some p →
      p.name ∈ newImages.val → s.currentIndex = newImages.val.idxOf p.name
  | .clickCard card => ∀ p, s.lightbox = some p → p.name ∈ s.allImages.val →
      card.name ∈ s.allImages.val
  | _ => True

lemma keepsIdentity_iff : KeepsIdentity s ↔ ∀ p, s.lightbox = some p →
    p.name ∈ s.allImages.val → s.currentIndex = s.allImages.val.idxOf p.name := by
  unfold KeepsIdentity
  simp only [takenFor_iff, imageAt_eq_some_iff]
  exact ⟨fun h p hp hmem => (h p hp hmem).2, fun h p hp hmem => ⟨hmem, h p hp hmem⟩⟩

/-! ### One event -/

lemma keepsIdentity_congr (h : s'.viewing = s.viewing) : KeepsIdentity s' ↔ KeepsIdentity s := by
  obtain ⟨hlist, hrest⟩ := Prod.mk.inj h
  obtain ⟨hindex, hlightbox⟩ := Prod.mk.inj hrest
  rw [keepsIdentity_iff, keepsIdentity_iff, hlist, hindex, hlightbox]

lemma viewing_imagesLoaded (newImages : Listing) :
    (s.imagesLoaded newImages).viewing = (newImages, s.currentIndex, s.lightbox) := by
  unfold imagesLoaded
  split <;> rfl

lemma viewing_copyFilename : s.copyFilename.viewing = s.viewing := by
  unfold Page.copyFilename
  split <;> rfl

lemma keepsPlace_answer {req : Fetch} {ans : FetchResult} (today : Name)
    (h : ¬ ∃ camera date newImages, req = .images camera date ∧ ans = .list newImages) :
    KeepsPlace s (.answer req ans today) := by
  unfold KeepsPlace
  split
  · next heq =>
    obtain ⟨hreq, hans, -⟩ := PageEvent.answer.inj heq
    exact absurd ⟨_, _, _, hreq, hans⟩ h
  · next heq => cases heq
  · trivial

/-- A list that arrives keeps the identity if it has the picture at the index. -/
lemma keeps_imagesLoaded (newImages : Listing) : KeepsIdentity (s.imagesLoaded newImages) ↔
    ∀ p, s.lightbox = some p → p.name ∈ newImages.val →
      s.currentIndex = newImages.val.idxOf p.name := by
  obtain ⟨hlist, hrest⟩ := Prod.mk.inj (viewing_imagesLoaded newImages)
  obtain ⟨hindex, hlightbox⟩ := Prod.mk.inj hrest
  rw [keepsIdentity_iff, hlist, hindex, hlightbox]

lemma keeps_openLightbox {index : ℤ} {img : Name} (h : s.imageAt index = some img) :
    KeepsIdentity (s.openLightbox index) := by
  rw [openLightbox_of_imageAt h, keepsIdentity_iff]
  intro p hp hmem
  obtain rfl := Option.some.inj hp
  exact (imageAt_eq_some_iff.mp h).2

lemma keeps_navigate (dir : ℤ) (h : KeepsIdentity s) : KeepsIdentity (s.navigate dir) := by
  rw [Page.navigate]
  split
  · next hrange =>
    have hlt : (s.currentIndex + dir).toNat < s.allImages.val.length := by omega
    obtain ⟨img, himg⟩ : ∃ img, s.imageAt (s.currentIndex + dir) = some img :=
      ⟨_, by rw [imageAt, if_neg (by omega), List.getElem?_eq_getElem hlt]⟩
    exact keeps_openLightbox himg
  · exact h

/-- A card that is no longer in the list has the index `-1`. -/
lemma keeps_clickCard (card : Picture) :
    KeepsIdentity (s.openLightbox (s.indexOf card.name)) ↔ ∀ p, s.lightbox = some p →
      p.name ∈ s.allImages.val → card.name ∈ s.allImages.val := by
  by_cases hcard : card.name ∈ s.allImages.val
  · have himg : s.imageAt (s.indexOf card.name) = some card.name :=
      imageAt_eq_some_iff.mpr ⟨hcard, if_pos hcard⟩
    exact iff_of_true (keeps_openLightbox himg) (fun _ _ _ => hcard)
  · have himg : s.imageAt (-1) = none := if_pos (by norm_num)
    rw [Page.indexOf, if_neg hcard, openLightbox, himg, keepsIdentity_iff]
    constructor
    · intro h p hp hmem
      have hindex : (-1 : ℤ) = s.allImages.val.idxOf p.name := h p hp hmem
      omega
    · intro h p hp hmem
      exact absurd (h p hp hmem) hcard

theorem handle_keeps_iff (h : KeepsIdentity s) (e : PageEvent) :
    KeepsIdentity (s.handle e) ↔ KeepsPlace s e := by
  have hsame : ∀ {s' : Page}, s'.viewing = s.viewing → (KeepsIdentity s' ↔ True) :=
    fun hview => iff_of_true ((keepsIdentity_congr hview).mpr h) trivial
  cases e with
  | answer req ans today =>
    by_cases hlist : ∃ camera date newImages, req = .images camera date ∧ ans = .list newImages
    · obtain ⟨camera, date, newImages, rfl, rfl⟩ := hlist
      exact keeps_imagesLoaded newImages
    · have hview : (s.handle (.answer req ans today)).viewing = s.viewing := by
        rcases answered_cases req ans today with h | h | ⟨-, -, -, h⟩
        · exact absurd h hlist
        · exact h.viewing
        · exact h
      exact iff_of_true ((hsame hview).mpr trivial) (keepsPlace_answer today hlist)
  | clickCamera camera => exact hsame rfl
  | changeDate date => exact hsame (asks_loadImages true).viewing
  | clickToday today =>
    rw [Page.handle]
    split
    · exact hsame (asks_loadImages true).viewing
    · exact hsame rfl
  | refresh => exact hsame (asks_loadImages false).viewing
  | poll today =>
    rw [Page.handle]
    split
    · exact hsame (asks_loadImages false).viewing
    · exact hsame rfl
  | clickCard card => exact keeps_clickCard card
  | navigate dir => exact iff_of_true (keeps_navigate dir h) trivial
  | closeLightbox => exact iff_of_true (fun p hp => by cases hp) trivial
  | copyFilename => exact hsame viewing_copyFilename

/-! ### Runs -/

/-- For every run of the page: the lightbox keeps the identity of its picture in every state just when
every event keeps the place. -/
theorem identity_kept_iff {lastCamera lastDate : Option Name} {es : List PageEvent}
    (hrun : Run Page.Step (Page.start lastCamera lastDate) es s) :
    Always Page.Step (Page.start lastCamera lastDate) (fun _ s => KeepsIdentity s) es ↔
      EachStep Page.Step (Page.start lastCamera lastDate) (fun _ => KeepsPlace) es := by
  refine always_iff_eachStep Page.step_unique (fun p hp => by cases hp) ?_ hrun
  rintro es s e s' h ⟨-, rfl⟩
  exact handle_keeps_iff h e

/-! ### A detection while someone is looking -/

def doorCamera : Name := ⟨Js.lit "camera_1", by decide⟩

def openDay : Name := ⟨Js.lit "2026-10-03", by decide⟩

def earlier : Name := ⟨Js.lit "det_1.jpg", by decide⟩

def later : Name := ⟨Js.lit "det_2.jpg", by decide⟩

/-- The page comes up, and its one picture is opened. -/
def openingEvents : List PageEvent :=
  [.answer .cameras (.list ⟨[doorCamera], by decide⟩) openDay,
    .answer (.dates doorCamera false) (.list ⟨[openDay], by decide⟩) openDay,
    .answer (.images doorCamera openDay) (.list ⟨[earlier], by decide⟩) openDay,
    .clickCard ⟨some doorCamera, some openDay, earlier⟩]

/-- The next poll brings a second picture. -/
def arrivalEvents : List PageEvent :=
  [.poll openDay, .answer (.images doorCamera openDay) (.list ⟨[later, earlier], by decide⟩) openDay]

def visited (es : List PageEvent) : Page := es.foldl Page.handle (Page.start none none)

lemma run_openingEvents : Run Page.Step (Page.start none none) openingEvents (visited openingEvents) :=
  (((Run.nil.snoc ⟨List.mem_singleton.mpr rfl, rfl⟩).snoc ⟨List.mem_singleton.mpr rfl, rfl⟩).snoc
    ⟨List.mem_singleton.mpr rfl, rfl⟩).snoc ⟨List.mem_singleton.mpr rfl, rfl⟩

theorem identity_kept_iff_opening :
    Always Page.Step (Page.start none none) (fun _ s => KeepsIdentity s) openingEvents ↔
      EachStep Page.Step (Page.start none none) (fun _ => KeepsPlace) openingEvents :=
  identity_kept_iff run_openingEvents

/-- The index then points to the new picture, while the lightbox shows the old one. -/
theorem detection_takes_place : ∃ s, Run Page.Step (Page.start none none) (openingEvents ++ arrivalEvents) s ∧
    ¬ KeepsIdentity s := by
  have hrun : Run Page.Step (visited openingEvents) arrivalEvents (visited (openingEvents ++ arrivalEvents)) :=
    (Run.nil.snoc ⟨trivial, rfl⟩).snoc ⟨List.mem_singleton.mpr rfl, rfl⟩
  refine ⟨_, run_openingEvents.append hrun, ?_⟩
  intro h
  have hindex := keepsIdentity_iff.mp h ⟨some doorCamera, some openDay, earlier⟩ rfl (by decide)
  revert hindex
  decide

end IntruderWatch.Proofs
