import IntruderWatch.Library.Histories
import IntruderWatch.Library.KeyedDiff
import IntruderWatch.Proofs.LightboxIdentity

/-!
# The grid and the server's lists

An answer with pictures edits the grid instead of redrawing it. The edit is a keyed update, whose
rule says when it comes to a redraw; over a run the answer that leaves nothing in flight decides.
-/

namespace IntruderWatch.Proofs
open Transition History Page

variable {s : Page} {es : List PageEvent}

/-! ### The two passes are a keyed update -/

def cardKey (card : Picture) : Js.Str := cardId card.name

def pictures (s : Page) (names : List Name) : List Picture := names.map s.createImageCard

lemma map_cardKey (names : List Name) : (pictures s names).map cardKey = names.map cardId := by
  rw [pictures, List.map_map]
  rfl

lemma removeObsolete_eq_keep (names : List Name) (cards : List Picture) :
    removeObsolete names cards = KeyedDiff.keep cardKey (pictures s names) cards := by
  rw [KeyedDiff.keep, map_cardKey]
  apply List.filter_congr
  intro card _
  exact decide_eq_decide.mpr Iff.rfl

lemma prependNew_eq_prepend (names : List Name) (cards : List Picture) :
    s.prependNew names cards = KeyedDiff.prepend cardKey (pictures s names) cards := by
  induction names with
  | nil => rfl
  | cons img names ih =>
    have hstep : s.prependNew (img :: names) cards =
        if (s.prependNew names cards).any (fun card => cardId card.name = cardId img) then
          s.prependNew names cards
        else s.createImageCard img :: s.prependNew names cards := by
      rw [prependNew, List.reverse_cons, List.foldl_append]
      rfl
    have hmem : (s.prependNew names cards).any (fun card => cardId card.name = cardId img) = true ↔
        cardKey (s.createImageCard img) ∈
          (KeyedDiff.prepend cardKey (pictures s names) cards).map cardKey := by
      simp only [ih, List.any_eq_true, decide_eq_true_eq, List.mem_map]
      rfl
    by_cases hin : (s.prependNew names cards).any (fun card => cardId card.name = cardId img) = true
    · rw [hstep, if_pos hin, ih]
      exact (KeyedDiff.prepend_cons_of_mem (hmem.mp hin)).symm
    · rw [hstep, if_neg hin, ih]
      exact (KeyedDiff.prepend_cons_of_notMem (hmem.not.mp hin)).symm

/-- The list can be drawn by the edit: an empty list if the grid is empty, another one if no two of its
names share an `id` and the cards that stay are its last ones. -/
def Redraws (s : Page) (names : List Name) : Prop :=
  if names = [] then s.cards = []
  else (names.map cardId).Nodup ∧ removeObsolete names s.cards <:+ pictures s names

lemma cards_imagesLoaded {newImages : Listing} (h : newImages.val ≠ []) :
    (s.imagesLoaded newImages).cards =
      KeyedDiff.refresh cardKey (pictures s newImages.val) s.cards := by
  rw [imagesLoaded, if_neg h, KeyedDiff.refresh, ← removeObsolete_eq_keep]
  exact prependNew_eq_prepend newImages.val _

lemma cards_imagesLoaded_nil {newImages : Listing} (h : newImages.val = []) :
    (s.imagesLoaded newImages).cards = s.cards := by
  rw [imagesLoaded, if_pos h]

lemma Redraws.cards {newImages : Listing} (h : Redraws s newImages.val) :
    (s.imagesLoaded newImages).cards = pictures s newImages.val := by
  by_cases hnil : newImages.val = []
  · rw [Redraws, if_pos hnil] at h
    rw [cards_imagesLoaded_nil hnil, h, hnil]
    rfl
  · rw [Redraws, if_neg hnil] at h
    rw [cards_imagesLoaded hnil]
    refine KeyedDiff.refresh_of_suffix ?_ ?_
    · rw [map_cardKey]
      exact h.1
    · rw [← removeObsolete_eq_keep]
      exact h.2

/-- No two cards of the grid have one `id`. -/
def CardsDistinct (s : Page) : Prop := (s.cards.map cardKey).Nodup

/-- A grid of distinct cards is redrawn in no other case. -/
theorem redraws_iff (hs : CardsDistinct s) (newImages : Listing) :
    (s.imagesLoaded newImages).cards = pictures s newImages.val ↔ Redraws s newImages.val := by
  refine ⟨fun h => ?_, Redraws.cards⟩
  by_cases hnil : newImages.val = []
  · rw [cards_imagesLoaded_nil hnil, hnil] at h
    rw [Redraws, if_pos hnil, h]
    rfl
  · rw [cards_imagesLoaded hnil] at h
    obtain ⟨hnodup, hsuffix⟩ := (KeyedDiff.refresh_eq_iff hs).mp h
    rw [map_cardKey] at hnodup
    rw [← removeObsolete_eq_keep] at hsuffix
    rw [Redraws, if_neg hnil]
    exact ⟨hnodup, hsuffix⟩

/-! ### In sync with the server -/

/-- The list for the camera and the date that an event brings. -/
def listFor (camera date : Name) : PageEvent → Option (List Name)
  | .answer (.images c d) (.list newImages) _ =>
    if c = camera ∧ d = date then some newImages.val else none
  | _ => none

/-- The cards are the pictures of the latest list received for the selected camera and date, one card
each, in the order of the list. -/
def Shows (es : List PageEvent) (s : Page) : Prop :=
  ∀ camera date names, s.currentCamera = some camera → s.currentDate = some date →
    latestOf (listFor camera date) es = some names → s.cards = pictures s names

/-- Once no request is in flight. -/
def InSync (es : List PageEvent) (s : Page) : Prop := s.pending = [] → Shows es s

/-- What an answer has to be, so that the grid is in sync if nothing is in flight after it. -/
inductive Settles (es : List PageEvent) (s : Page) : Fetch → FetchResult → Prop
  | waiting {req : Fetch} {ans : FetchResult} : s.pending.erase req ≠ [] → Settles es s req ans
  /-- The page asks for dates next, or there is no camera. -/
  | cameras {ans : FetchResult} : Settles es s .cameras ans
  /-- The page asks for pictures next, or there is no date. -/
  | dates {camera : Name} {isInitial : Bool} {dates : Listing} :
      Settles es s (.dates camera isInitial) (.list dates)
  /-- The list for the selection, where the edit redraws the grid. -/
  | listed {camera date : Name} {newImages : Listing} : s.currentCamera = some camera →
      s.currentDate = some date → Redraws s newImages.val →
      Settles es s (.images camera date) (.list newImages)
  /-- A late list for another selection: an empty one changes no card, and another one is harmless
  as long as the selection has no list of its own. -/
  | late {camera date : Name} {newImages : Listing} :
      ¬ (s.currentCamera = some camera ∧ s.currentDate = some date) →
      Shows es s → (newImages.val = [] ∨ ∀ c d, s.currentCamera = some c → s.currentDate = some d →
        latestOf (listFor c d) es = none) →
      Settles es s (.images camera date) (.list newImages)
  /-- No list; the cards stay. -/
  | failed {req : Fetch} {ans : FetchResult} : (∀ names, ans ≠ .list names) → Shows es s →
      Settles es s req ans

def SettlesGrid (es : List PageEvent) (s : Page) : PageEvent → Prop
  | .answer req ans _ => Settles es s req ans
  | _ => True

/-! ### One event -/

lemma Shows.of_same {es' : List PageEvent} {s' : Page} (h : Shows es s)
    (hsame : (s'.cards, s'.currentCamera, s'.currentDate) = (s.cards, s.currentCamera, s.currentDate))
    (hlatest : ∀ camera date, s'.currentCamera = some camera → s'.currentDate = some date →
      latestOf (listFor camera date) es' = latestOf (listFor camera date) es) : Shows es' s' := by
  obtain ⟨hcards, hrest⟩ := Prod.mk.inj hsame
  obtain ⟨hcamera, hdate⟩ := Prod.mk.inj hrest
  intro camera date names hc hd hnames
  rw [hlatest camera date hc hd] at hnames
  have hpictures : pictures s' names = pictures s names := by
    unfold pictures createImageCard
    rw [hcamera, hdate]
  rw [hcards, hpictures]
  exact h camera date names (hcamera ▸ hc) (hdate ▸ hd) hnames

/-- A request is in flight, or nothing is selected. -/
lemma inSync_of_asks {s' : Page} (h : Asks s s') : InSync es s' := by
  intro hpending camera date names hcamera hdate
  rcases h.selection hpending with hnone | hnone
  · exact absurd (hcamera.symm.trans hnone) (Option.some_ne_none camera)
  · exact absurd (hdate.symm.trans hnone) (Option.some_ne_none date)

lemma latestOf_snoc_of_none {e : PageEvent} {camera date : Name} (h : listFor camera date e = none) :
    latestOf (listFor camera date) (es ++ [e]) = latestOf (listFor camera date) es := by
  rw [latestOf_snoc, h, Option.none_or]

/-- An event without a list for the selection that leaves the grid alone. -/
lemma Shows.of_sameGrid {s' : Page} {e : PageEvent} (h : Shows es s) (hsame : SameGrid s s')
    (hnone : ∀ camera date, listFor camera date e = none) : Shows (es ++ [e]) s' :=
  h.of_same (by rw [hsame.cards, hsame.camera, hsame.date])
    (fun camera date _ _ => latestOf_snoc_of_none (hnone camera date))

lemma pending_imagesLoaded (newImages : Listing) : (s.imagesLoaded newImages).pending = s.pending := by
  unfold imagesLoaded
  split <;> rfl

/-- What is in flight stays in flight. -/
lemma pending_answered {req : Fetch} {ans : FetchResult} {today : Name}
    (h : (s.answered req ans today).pending = []) : s.pending = [] := by
  rcases answered_cases req ans today with hlist | hasks | ⟨-, -, hsame, -⟩
  · obtain ⟨camera, date, newImages, rfl, rfl⟩ := hlist
    exact (pending_imagesLoaded newImages).symm.trans h
  · exact hasks.flight h
  · exact hsame.pending.symm.trans h

lemma selection_imagesLoaded (newImages : Listing) :
    ((s.imagesLoaded newImages).currentCamera, (s.imagesLoaded newImages).currentDate) =
      (s.currentCamera, s.currentDate) := by
  unfold imagesLoaded
  split <;> rfl

/-- An answer without a list changes no card. -/
lemma inSync_failed {req : Fetch} {ans : FetchResult} (today : Name)
    (hans : ∀ names, ans ≠ .list names) (h : Shows es s) :
    InSync (es ++ [.answer req ans today]) (s.answered req ans today) := by
  rcases answered_cases req ans today with hlist | hasks | ⟨-, -, hsame, -⟩
  · obtain ⟨camera, date, newImages, rfl, rfl⟩ := hlist
    exact absurd rfl (hans newImages)
  · exact inSync_of_asks hasks
  · refine fun _ => h.of_sameGrid hsame ?_
    intro camera date
    unfold listFor
    split
    · next heq => exact absurd (PageEvent.answer.inj heq).2.1 (hans _)
    · rfl

/-- The list for the selection becomes the latest one, and the grid shows it. -/
lemma shows_listed {camera date : Name} {newImages : Listing} (today : Name)
    (hcamera : s.currentCamera = some camera) (hdate : s.currentDate = some date)
    (h : Redraws s newImages.val) :
    Shows (es ++ [.answer (.images camera date) (.list newImages) today])
      (s.imagesLoaded newImages) := by
  obtain ⟨hcamera', hdate'⟩ := Prod.mk.inj (selection_imagesLoaded (s := s) newImages)
  intro c d names hc hd hnames
  obtain rfl : camera = c := Option.some.inj (hcamera.symm.trans (hcamera'.symm.trans hc))
  obtain rfl : date = d := Option.some.inj (hdate.symm.trans (hdate'.symm.trans hd))
  rw [latestOf_snoc, listFor, if_pos ⟨rfl, rfl⟩, Option.some_or] at hnames
  obtain rfl := Option.some.inj hnames
  rw [h.cards]
  unfold pictures createImageCard
  rw [hcamera', hdate']

lemma shows_late {camera date : Name} {newImages : Listing} (today : Name)
    (hother : ¬ (s.currentCamera = some camera ∧ s.currentDate = some date)) (h : Shows es s)
    (hempty : newImages.val = [] ∨ ∀ c d, s.currentCamera = some c → s.currentDate = some d →
      latestOf (listFor c d) es = none) :
    Shows (es ++ [.answer (.images camera date) (.list newImages) today])
      (s.imagesLoaded newImages) := by
  obtain ⟨hcamera', hdate'⟩ := Prod.mk.inj (selection_imagesLoaded (s := s) newImages)
  have hlatest : ∀ c d, (s.imagesLoaded newImages).currentCamera = some c →
      (s.imagesLoaded newImages).currentDate = some d →
      latestOf (listFor c d) (es ++ [.answer (.images camera date) (.list newImages) today]) =
        latestOf (listFor c d) es := by
    intro c d hc hd
    apply latestOf_snoc_of_none
    rw [listFor, if_neg]
    rintro ⟨rfl, rfl⟩
    exact hother ⟨hcamera'.symm.trans hc, hdate'.symm.trans hd⟩
  rcases hempty with hnil | hnone
  · refine h.of_same ?_ hlatest
    rw [cards_imagesLoaded_nil hnil, hcamera', hdate']
  · intro c d names hc hd hnames
    rw [hlatest c d hc hd, hnone c d (hcamera'.symm.trans hc) (hdate'.symm.trans hd)] at hnames
    cases hnames

theorem inSync_answer {req : Fetch} {ans : FetchResult} (today : Name) (h : Settles es s req ans) :
    InSync (es ++ [.answer req ans today]) (s.handle (.answer req ans today)) := by
  have hsame : ∀ {s'}, s' = { s with pending := s.pending.erase req } → Shows es s → Shows es s' := by
    rintro s' rfl hshows
    exact hshows.of_same rfl (fun _ _ _ _ => rfl)
  cases h with
  | waiting hne => exact fun hpending => absurd (pending_answered hpending) hne
  | cameras =>
    rcases answered_cases .cameras ans today with ⟨_, _, _, hreq, -⟩ | hasks | ⟨hreq, -⟩
    · cases hreq
    · exact inSync_of_asks hasks
    · exact absurd rfl hreq
  | dates => exact inSync_of_asks (asks_loadImages true)
  | listed hcamera hdate hredraws => exact fun _ => shows_listed today hcamera hdate hredraws
  | late hother hshows hempty => exact fun _ => shows_late today hother (hsame rfl hshows) hempty
  | failed hans hshows => exact inSync_failed today hans (hsame rfl hshows)

lemma inSync_of_sameGrid {s' : Page} {e : PageEvent} (h : InSync es s) (hsame : SameGrid s s')
    (hnone : ∀ camera date, listFor camera date e = none) : InSync (es ++ [e]) s' :=
  fun hpending => (h (hsame.pending.symm.trans hpending)).of_sameGrid hsame hnone

theorem inSync_handle {e : PageEvent} (h : InSync es s) (hsettles : SettlesGrid es s e) :
    InSync (es ++ [e]) (s.handle e) := by
  by_cases hans : ∃ req ans today, e = .answer req ans today
  · obtain ⟨req, ans, today, rfl⟩ := hans
    exact inSync_answer today hsettles
  · rcases handle_cases hans with hasks | hsame
    · exact inSync_of_asks hasks
    · refine inSync_of_sameGrid h hsame ?_
      intro camera date
      unfold listFor
      split
      · exact absurd ⟨_, _, _, rfl⟩ hans
      · rfl

/-! ### Runs -/

lemma distinct_of_cards {s' : Page} (h : CardsDistinct s) (hcards : s'.cards = s.cards ∨ s'.cards = []) :
    CardsDistinct s' := by
  unfold CardsDistinct
  rcases hcards with hcards | hcards
  · rw [hcards]
    exact h
  · rw [hcards]
    exact List.nodup_nil

lemma distinct_imagesLoaded (h : CardsDistinct s) (newImages : Listing) :
    CardsDistinct (s.imagesLoaded newImages) := by
  by_cases hnil : newImages.val = []
  · exact distinct_of_cards h (Or.inl (cards_imagesLoaded_nil hnil))
  · unfold CardsDistinct
    rw [cards_imagesLoaded hnil]
    exact KeyedDiff.refresh_nodup h

theorem distinct_handle (h : CardsDistinct s) (e : PageEvent) : CardsDistinct (s.handle e) := by
  by_cases hans : ∃ req ans today, e = .answer req ans today
  · obtain ⟨req, ans, today, rfl⟩ := hans
    have hs : CardsDistinct { s with pending := s.pending.erase req } := h
    rcases answered_cases req ans today with hlist | hasks | ⟨-, -, hsame, -⟩
    · obtain ⟨camera, date, newImages, rfl, rfl⟩ := hlist
      exact distinct_imagesLoaded hs newImages
    · exact distinct_of_cards hs hasks.cards
    · exact distinct_of_cards hs (Or.inl hsame.cards)
  · rcases handle_cases hans with hasks | hsame
    · exact distinct_of_cards h hasks.cards
    · exact distinct_of_cards h (Or.inl hsame.cards)

theorem run_distinct {lastCamera lastDate : Option Name}
    (hrun : Run Page.Step (Page.start lastCamera lastDate) es s) : CardsDistinct s := by
  have hstart : CardsDistinct (Page.start lastCamera lastDate) := List.nodup_nil
  refine Run.stateInvariant CardsDistinct hstart ?_ hrun
  rintro s e s' h ⟨-, rfl⟩
  exact distinct_handle h e

lemma redraws_of_shows {camera date : Name} {newImages : Listing} {today : Name} (hs : CardsDistinct s)
    (hcamera : s.currentCamera = some camera) (hdate : s.currentDate = some date)
    (h : Shows (es ++ [.answer (.images camera date) (.list newImages) today])
      (s.imagesLoaded newImages)) : Redraws s newImages.val := by
  obtain ⟨hcamera', hdate'⟩ := Prod.mk.inj (selection_imagesLoaded (s := s) newImages)
  have hlatest : latestOf (listFor camera date)
      (es ++ [.answer (.images camera date) (.list newImages) today]) = some newImages.val := by
    rw [latestOf_snoc, listFor, if_pos ⟨rfl, rfl⟩, Option.some_or]
  have hcards := h camera date _ (hcamera'.trans hcamera) (hdate'.trans hdate) hlatest
  apply (redraws_iff hs newImages).mp
  rw [hcards]
  unfold pictures createImageCard
  rw [hcamera', hdate']

/-- For every reachable state that waits for the list of the selection alone: the grid shows the list
that arrives just when the edit redraws it. -/
theorem listed_inSync_iff {lastCamera lastDate : Option Name} {camera date : Name}
    (hrun : Run Page.Step (Page.start lastCamera lastDate) es s)
    (hpending : s.pending = [.images camera date]) (hcamera : s.currentCamera = some camera)
    (hdate : s.currentDate = some date) (newImages : Listing) (today : Name) :
    let e := PageEvent.answer (.images camera date) (.list newImages) today
    InSync (es ++ [e]) (s.handle e) ↔ Redraws s newImages.val := by
  dsimp only
  constructor
  · intro h
    have hlast : (s.pending.erase (.images camera date)) = [] := by rw [hpending, List.erase_cons_head]
    have hshows : Shows _ (imagesLoaded { s with pending := s.pending.erase (.images camera date) }
      newImages) := h ((pending_imagesLoaded newImages).trans hlast)
    have hs : CardsDistinct { s with pending := s.pending.erase (.images camera date) } :=
      distinct_of_cards (run_distinct hrun) (Or.inl rfl)
    have hredraws := redraws_of_shows hs hcamera hdate hshows
    exact hredraws
  · intro h
    exact inSync_answer today (.listed hcamera hdate h)

/-! ### The last picture is deleted -/

def shownEvents : List PageEvent := openingEvents.take 3

lemma run_shownEvents : Run Page.Step (Page.start none none) shownEvents (visited shownEvents) :=
  ((Run.nil.snoc ⟨List.mem_singleton.mpr rfl, rfl⟩).snoc ⟨List.mem_singleton.mpr rfl, rfl⟩).snoc
    ⟨List.mem_singleton.mpr rfl, rfl⟩

lemma settles_shownEvents : EachStep Page.Step (Page.start none none) SettlesGrid shownEvents := by
  have hcameras : Run Page.Step (Page.start none none) (openingEvents.take 1)
      (visited (openingEvents.take 1)) := Run.nil.snoc ⟨List.mem_singleton.mpr rfl, rfl⟩
  have hdates : Run Page.Step (Page.start none none) (openingEvents.take 2)
      (visited (openingEvents.take 2)) := hcameras.snoc ⟨List.mem_singleton.mpr rfl, rfl⟩
  have hredraws : Redraws (visited (openingEvents.take 2)) [earlier] := by
    rw [Redraws, if_neg (List.cons_ne_nil earlier [])]
    exact ⟨by decide, by decide⟩
  exact ((EachStep.nil.snoc Page.step_unique Run.nil .cameras).snoc Page.step_unique hcameras .dates).snoc
    Page.step_unique hdates (.listed rfl rfl hredraws)

/-- The only picture of the day is deleted before the page is refreshed. -/
def deletion : List PageEvent :=
  [.refresh, .answer (.images doorCamera openDay) (.list ⟨[], List.nodup_nil⟩) openDay]

end IntruderWatch.Proofs
