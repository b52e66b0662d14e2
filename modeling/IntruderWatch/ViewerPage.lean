import IntruderWatch.Library.JsText
import IntruderWatch.Library.Runs

/-!
# The viewer page

The script of the page as a transition system. A handler runs up to its `await` and the answer to
its request runs the rest, so that the answers to several requests may come in any order, between
all that the user and the timer do. `null` and the empty string are both false and are one value
here. Of the DOM there are the cards of the grid, the date options and the lightbox.
`parseImageDetails` reads the details of a picture off its name.
-/

namespace IntruderWatch
open Js

/-- A camera, a date or a file: the name of a directory entry. -/
abbrev Name := {s : Str // s ≠ []}

/-- The names that the server lists; the entries of a directory are distinct. -/
abbrev Listing := {names : List Name // names.Nodup}

/-- What the address `/images/camera/date/name` shows. -/
structure Picture where
  camera : Option Name
  date : Option Name
  name : Name
deriving DecidableEq

inductive Fetch
  | cameras
  | dates (camera : Name) (isInitial : Bool)
  | images (camera date : Name)
deriving DecidableEq

inductive FetchResult
  | list (names : Listing)
  /-- JSON of another shape, such as an error's. -/
  | notList
  /-- Status 401; the page leaves for the login. -/
  | unauthorized
  | failed

structure Page where
  cameraList : List Name
  currentCamera : Option Name
  currentDate : Option Name
  dateOptions : List Name
  dateEnabled : Bool
  spinner : Bool
  cards : List Picture
  allImages : Listing
  currentIndex : ℤ
  /-- What the lightbox shows while it is active. -/
  lightbox : Option Picture
  clipboard : Option Name
  pending : List Fetch

inductive PageEvent
  | answer (req : Fetch) (ans : FetchResult) (today : Name)
  | clickCamera (camera : Name)
  | changeDate (date : Option Name)
  | clickToday (today : Name)
  | refresh
  | poll (today : Name)
  | clickCard (card : Picture)
  | navigate (dir : ℤ)
  | closeLightbox
  | copyFilename

namespace Page

/-! ### Cards -/

/-- `[a-zA-Z0-9]`. -/
def isAlphanumeric (c : UInt16) : Bool :=
  (ofChar 'a' ≤ c && c ≤ ofChar 'z') || (ofChar 'A' ≤ c && c ≤ ofChar 'Z') ||
    (ofChar '0' ≤ c && c ≤ ofChar '9')

/-- The `id` of a card. -/
def cardId (img : Name) : Str :=
  lit "img-" ++ img.val.map (fun c => if isAlphanumeric c then c else ofChar '-')

/-- The first pass over the grid. -/
def removeObsolete (newImages : List Name) (cards : List Picture) : List Picture :=
  cards.filter (fun card => decide (cardId card.name ∈ newImages.map cardId))

variable (s : Page)

/-- The page when its script starts, with what the local storage holds. -/
def start (lastCamera lastDate : Option Name) : Page where
  cameraList := []
  currentCamera := lastCamera
  currentDate := lastDate
  dateOptions := []
  dateEnabled := false
  spinner := false
  cards := []
  allImages := ⟨[], List.nodup_nil⟩
  currentIndex := -1
  lightbox := none
  clipboard := none
  pending := [.cameras]

def createImageCard (img : Name) : Picture := ⟨s.currentCamera, s.currentDate, img⟩

/-- The second pass: the last image first, each in front of the grid. -/
def prependNew (newImages : List Name) (cards : List Picture) : List Picture :=
  newImages.reverse.foldl (fun cards img =>
    if cards.any (fun card => cardId card.name = cardId img) then cards
    else s.createImageCard img :: cards) cards

/-! ### Requests and answers -/

def loadImages (showSpinner : Bool) : Page :=
  match s.currentCamera, s.currentDate with
  | some camera, some date =>
    { s with
      spinner := s.spinner || showSpinner
      cards := if showSpinner then [] else s.cards
      pending := s.pending ++ [.images camera date] }
  | _, _ => s

def imagesLoaded (newImages : Listing) : Page :=
  if newImages.val = [] then { s with spinner := false, allImages := newImages }
  else
    { s with
      spinner := false
      cards := s.prependNew newImages.val (removeObsolete newImages.val s.cards)
      allImages := newImages }

def selectCamera (camera : Name) (isInitial : Bool) : Page :=
  { s with currentCamera := some camera, pending := s.pending ++ [.dates camera isInitial] }

/-- The date after the date folders have come. -/
def chooseDate (isInitial : Bool) (today : Name) (dates : List Name) : Option Name :=
  if isInitial ∧ ∃ date ∈ dates, s.currentDate = some date then s.currentDate
  else if today ∈ dates then some today
  else
    match dates with
    | date :: _ => some date
    | [] => s.currentDate

def datesLoaded (isInitial : Bool) (today : Name) (dates : Listing) : Page :=
  loadImages
    { s with
      dateOptions := dates.val
      dateEnabled := true
      currentDate := s.chooseDate isInitial today dates.val } true

/-- `init` after `loadCameras`. -/
def init : Page :=
  match s.currentCamera with
  | some camera =>
    if camera ∈ s.cameraList then s.selectCamera camera true
    else
      match s.cameraList with
      | first :: _ => selectCamera { s with currentCamera := none, currentDate := none } first false
      | [] => { s with currentCamera := none, currentDate := none }
  | none =>
    match s.cameraList with
    | first :: _ => s.selectCamera first false
    | [] => s

/-- The rest of the handler that sent the request. -/
def answered (req : Fetch) (ans : FetchResult) (today : Name) : Page :=
  match req, ans with
  | .cameras, .list cameras => init { s with cameraList := cameras.val }
  | .cameras, _ => s.init
  | .dates _ isInitial, .list dates => s.datesLoaded isInitial today dates
  | .dates _ _, .notList => { s with dateOptions := [] }
  | .images _ _, .list newImages => s.imagesLoaded newImages
  | .images _ _, .notList => { s with spinner := false }
  | _, _ => s

/-! ### The lightbox -/

/-- `allImages[index]`. -/
def imageAt (index : ℤ) : Option Name :=
  if index < 0 then none else s.allImages.val[index.toNat]?

/-- `allImages.indexOf(img)`. -/
def indexOf (img : Name) : ℤ :=
  if img ∈ s.allImages.val then s.allImages.val.idxOf img else -1

def openLightbox (index : ℤ) : Page :=
  match s.imageAt index with
  | some img => { s with currentIndex := index, lightbox := some (s.createImageCard img) }
  | none => { s with currentIndex := index }

def navigate (dir : ℤ) : Page :=
  let nextIdx := s.currentIndex + dir
  if 0 ≤ nextIdx ∧ nextIdx < s.allImages.val.length then s.openLightbox nextIdx else s

def copyFilename : Page :=
  match s.imageAt s.currentIndex with
  | some img => { s with clipboard := some img }
  | none => s

/-! ### Steps -/

/-- The events that can come: answers to what was asked, choices that are offered. -/
def Enabled : PageEvent → Prop
  | .answer req _ _ => req ∈ s.pending
  | .clickCamera camera => camera ∈ s.cameraList
  | .changeDate date => s.dateEnabled = true ∧ ∀ d, date = some d → d ∈ s.dateOptions
  | .clickCard card => card ∈ s.cards
  | .navigate dir => s.lightbox ≠ none ∧ (dir = 1 ∨ dir = -1)
  | .copyFilename => s.lightbox ≠ none
  | _ => True

def handle : PageEvent → Page
  | .answer req ans today => answered { s with pending := s.pending.erase req } req ans today
  | .clickCamera camera => s.selectCamera camera false
  | .changeDate date => loadImages { s with currentDate := date } true
  | .clickToday today =>
    if today ∈ s.dateOptions then loadImages { s with currentDate := some today } true else s
  | .refresh => s.loadImages false
  | .poll today => if s.currentDate = some today then s.loadImages false else s
  | .clickCard card => s.openLightbox (s.indexOf card.name)
  | .navigate dir => s.navigate dir
  | .closeLightbox => { s with lightbox := none }
  | .copyFilename => s.copyFilename

def Step (s : Page) (e : PageEvent) (s' : Page) : Prop := s.Enabled e ∧ s' = s.handle e

lemma step_unique (s : Page) (e : PageEvent) (s₁ s₂ : Page) (h₁ : Step s e s₁) (h₂ : Step s e s₂) :
    s₁ = s₂ :=
  h₁.2.trans h₂.2.symm

/-! ### What a handler does -/

/-- What the lightbox works on. -/
def viewing : Listing × ℤ × Option Picture := (s.allImages, s.currentIndex, s.lightbox)

/-- `s'` has asked the server for what to show next, unless no camera or no date is selected. -/
structure Asks (s s' : Page) : Prop where
  viewing : s'.viewing = s.viewing
  cards : s'.cards = s.cards ∨ s'.cards = []
  flight : s'.pending = [] → s.pending = []
  selection : s'.pending = [] → s'.currentCamera = none ∨ s'.currentDate = none

/-- The grid and the selection are the same. -/
structure SameGrid (s s' : Page) : Prop where
  cards : s'.cards = s.cards
  camera : s'.currentCamera = s.currentCamera
  date : s'.currentDate = s.currentDate
  pending : s'.pending = s.pending

variable {s}

/-- A handler may first set what the grid and the lightbox do not show. -/
lemma Asks.of_same {t s' : Page} (h : Asks t s') (hviewing : t.viewing = s.viewing)
    (hcards : t.cards = s.cards) (hpending : t.pending = s.pending) : Asks s s' where
  viewing := h.viewing.trans hviewing
  cards := hcards ▸ h.cards
  flight := hpending ▸ h.flight
  selection := h.selection

lemma asks_loadImages (showSpinner : Bool) : Asks s (s.loadImages showSpinner) := by
  unfold loadImages
  split
  · refine ⟨rfl, ?_, by simp, by simp⟩
    cases showSpinner with
    | true => exact Or.inr rfl
    | false => exact Or.inl rfl
  · next hnone =>
    refine ⟨rfl, Or.inl rfl, id, fun _ => ?_⟩
    cases hcamera : s.currentCamera with
    | none => exact Or.inl rfl
    | some camera =>
      cases hdate : s.currentDate with
      | none => exact Or.inr rfl
      | some date => exact (hnone camera date hcamera hdate).elim

lemma asks_selectCamera (camera : Name) (isInitial : Bool) : Asks s (s.selectCamera camera isInitial) :=
  ⟨rfl, Or.inl rfl, by simp [selectCamera], by simp [selectCamera]⟩

lemma asks_init : Asks s s.init := by
  unfold init
  split
  · split
    · exact asks_selectCamera _ _
    · split
      · exact (asks_selectCamera _ _).of_same rfl rfl rfl
      · exact ⟨rfl, Or.inl rfl, id, fun _ => Or.inl rfl⟩
  · next hnone =>
    split
    · exact asks_selectCamera _ _
    · exact ⟨rfl, Or.inl rfl, id, fun _ => Or.inl hnone⟩

/-- An answer brings pictures, or makes the page ask again, or is no list and leaves the page. -/
lemma answered_cases (req : Fetch) (ans : FetchResult) (today : Name) :
    (∃ camera date newImages, req = .images camera date ∧ ans = .list newImages) ∨
      Asks s (s.answered req ans today) ∨
      req ≠ .cameras ∧ (∀ names, ans ≠ .list names) ∧ SameGrid s (s.answered req ans today) ∧
        (s.answered req ans today).viewing = s.viewing := by
  unfold answered
  split
  · exact Or.inr (Or.inl (asks_init.of_same rfl rfl rfl))
  · exact Or.inr (Or.inl asks_init)
  · exact Or.inr (Or.inl ((asks_loadImages true).of_same rfl rfl rfl))
  · exact Or.inr (Or.inr ⟨by simp, by simp, ⟨rfl, rfl, rfl, rfl⟩, rfl⟩)
  · exact Or.inl ⟨_, _, _, rfl, rfl⟩
  · exact Or.inr (Or.inr ⟨by simp, by simp, ⟨rfl, rfl, rfl, rfl⟩, rfl⟩)
  · next hcameras _ hdates _ himages _ =>
    refine Or.inr (Or.inr ⟨hcameras, ?_, ⟨rfl, rfl, rfl, rfl⟩, rfl⟩)
    rintro names rfl
    cases req with
    | cameras => exact hcameras rfl
    | dates camera isInitial => exact hdates camera isInitial names rfl rfl
    | images camera date => exact himages camera date names rfl rfl

lemma sameGrid_openLightbox (index : ℤ) : SameGrid s (s.openLightbox index) := by
  unfold openLightbox
  split <;> exact ⟨rfl, rfl, rfl, rfl⟩

/-- What the user and the timer do: ask for something, or nothing that the grid shows. -/
lemma handle_cases {e : PageEvent} (h : ¬ ∃ req ans today, e = .answer req ans today) :
    Asks s (s.handle e) ∨ SameGrid s (s.handle e) := by
  cases e with
  | answer req ans today => exact absurd ⟨req, ans, today, rfl⟩ h
  | clickCamera camera => exact Or.inl (asks_selectCamera camera false)
  | changeDate date => exact Or.inl ((asks_loadImages true).of_same rfl rfl rfl)
  | clickToday today =>
    rw [handle]
    split
    · exact Or.inl ((asks_loadImages true).of_same rfl rfl rfl)
    · exact Or.inr ⟨rfl, rfl, rfl, rfl⟩
  | refresh => exact Or.inl (asks_loadImages false)
  | poll today =>
    rw [handle]
    split
    · exact Or.inl (asks_loadImages false)
    · exact Or.inr ⟨rfl, rfl, rfl, rfl⟩
  | clickCard card => exact Or.inr (sameGrid_openLightbox (s.indexOf card.name))
  | navigate dir =>
    rw [handle, navigate]
    split
    · exact Or.inr (sameGrid_openLightbox (s.currentIndex + dir))
    · exact Or.inr ⟨rfl, rfl, rfl, rfl⟩
  | closeLightbox => exact Or.inr ⟨rfl, rfl, rfl, rfl⟩
  | copyFilename =>
    rw [handle, copyFilename]
    split <;> exact Or.inr ⟨rfl, rfl, rfl, rfl⟩

end Page

/-! ### The details in a picture's name -/

structure ImageDetails where
  timeFormatted : Str
  exactTime : Str
  hash : Str
  worker : Str
  filename : Str
deriving DecidableEq

namespace ImageDetails

/-- `timeFormatted` and `exactTime` of the part with the date and the time. -/
def readTime (dt : Str) : Str × Str :=
  if ofChar ' ' ∈ dt then
    let timeOnly := (dt.splitOn (ofChar ' ')).getD 1 []
    (firstPart (ofChar '.') timeOnly, timeOnly)
  else (firstPart (ofChar '.') dt, dt)

def times (parts : List Str) : Str × Str :=
  match parts[1]? with
  | some dt => readTime dt
  | none => (lit "Alert", [])

end ImageDetails

/-- Nothing in its `try` throws for a string. -/
def parseImageDetails (img : Str) : ImageDetails :=
  let parts := img.splitOn (ofChar '_')
  let time := ImageDetails.times parts
  let hash := (parts[2]?).getD []
  let worker := ((parts[3]?).map removeExtension).getD []
  { timeFormatted := orElse time.1 (lit "Alert")
    exactTime := orElse time.2 time.1
    hash := orElse hash (lit "detected")
    worker := orElse worker (lit "node")
    filename := img }

end IntruderWatch
