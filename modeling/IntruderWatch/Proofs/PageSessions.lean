import IntruderWatch.Library.Histories
import IntruderWatch.Pages
import IntruderWatch.Proofs.ImageContainment
import IntruderWatch.Proofs.UnauthenticatedRequests

/-!
# Who sees the pages

Over every sequence of visits the pages and the listings are open exactly from an accepted login to its
expiry, to the next logout or to the loss of the cookie, for a username that tokens can carry. A session
that has ended does not begin again by itself, so the redirects between the two pages come to rest.
-/

namespace IntruderWatch.Proofs
open Py ViewerEnv History

/-! ### Sessions in the history -/

/-- The token format keeps the username, and the handlers take it for a user. -/
def NamesUser (env : ViewerEnv) : Prop := env.viewerUsername ≠ [] ∧ colon ∉ env.viewerUsername

/-- The start of a session with its time, or the end of one. -/
def sessionOf : BrowserEvent → Option (Option Timestamp)
  | .visited _ now _ (.login (.ok (.ok _ _))) => some (some now)
  | .visited _ _ .logout _ => some none
  | .visited _ _ _ _ => none
  | .forgot => some none

/-- The latest of these events is a login that has not expired. -/
def SignedIn (past : List BrowserEvent) (now : Timestamp) : Prop :=
  ∃ t, latestOf sessionOf past = some (some t) ∧ now.val ≤ ((expiry t : ℤ) : ℚ)

def Open (config : ViewerConfig) (past : List BrowserEvent) (now : Timestamp) : Prop :=
  NamesUser config.toViewerEnv ∧ SignedIn past now

/-- What the visits come to. -/
def PageLaw (config : ViewerConfig) (past : List BrowserEvent) : BrowserEvent → Prop
  | .visited _ now .root outcome =>
    (Open config past now ∧ outcome = .page (htmlPage (lit "index.html"))) ∨
      (¬ Open config past now ∧ outcome = .page (seeOther (lit "/login")))
  | .visited _ now .login outcome =>
    (Open config past now ∧ outcome = .page (seeOther (lit "/"))) ∨
      (¬ Open config past now ∧ outcome = .page (htmlPage (lit "login.html")))
  | .visited _ now (.api route) outcome => IsListing route →
    (Open config past now ∧ ∃ reply, outcome = .data reply ∧ reply.status ≠ 401) ∨
      (¬ Open config past now ∧ outcome = .data ⟨401, .detail "Authentication required"⟩)
  | _ => True

/-! ### The token in the cookie -/

section Token

variable {env : ViewerEnv} {username password token user : Str} {t now : Timestamp}

lemma apiLogin_accepts (h : env.apiLogin username password now = .ok (.ok user token)) :
    isAscii env.viewerUsername = true ∧ env.createSessionToken env.viewerUsername now = .ok token := by
  refine ⟨LoginAccepts.ascii ⟨username, password, now, user, token, h⟩, ?_⟩
  rw [apiLogin] at h
  obtain ⟨isCorrectUsername, -, h⟩ := bind_eq_ok.mp h
  obtain ⟨isCorrectPassword, -, h⟩ := bind_eq_ok.mp h
  split at h
  · cases h
  · obtain ⟨token', htoken, h⟩ := bind_eq_ok.mp h
    obtain ⟨rfl, rfl⟩ := LoginResponse.ok.inj (Except.ok.inj h)
    exact htoken

/-- A token is refused after its expiry. -/
lemma verify_expired (h : env.createSessionToken username t = .ok token)
    (ht : ((expiry t : ℤ) : ℚ) < now.val) : env.verifySessionToken token now = none := by
  by_cases hcolon : colon ∈ username
  · exact verify_colon env hcolon h
  obtain ⟨payload, -, hdec⟩ := createSessionToken_spec env h
  have hsplit := split_token env hcolon (expiry t) payload
  have hparse : parseInt (decimal (expiry t)) = .ok (expiryInteger t) :=
    parseInt_decimal (expiryInteger t)
  have hlate : ((expiryInteger t).val : ℚ) < now.val := ht
  have hcheck : env.checkSessionToken token now = .ok none := by
    simp only [checkSessionToken, hdec, bind, Except.bind, hsplit, hparse, hlate, if_true]
    rfl
  rw [verifySessionToken, hcheck]

lemma created_ne_nil (h : env.createSessionToken username t = .ok token) : token ≠ [] := by
  rintro rfl
  obtain ⟨payload, -, hdec⟩ := createSessionToken_spec env h
  have hnil : decodeToken [] = .ok [] := rfl
  rw [hnil, Except.ok.injEq] at hdec
  exact absurd hdec.symm (List.append_ne_nil_of_right_ne_nil _ (List.cons_ne_nil _ _))

lemma getSessionUser_created (h : env.createSessionToken username t = .ok token) :
    env.getSessionUser (withCookie (some token)) now = env.verifySessionToken token now :=
  if_neg (created_ne_nil h)

/-- The cookie of an accepted login opens the pages as long as it lives, for a usable username. -/
lemma sessionUser_iff (hascii : isAscii env.viewerUsername = true)
    (h : env.createSessionToken env.viewerUsername t = .ok token) :
    truthyText (env.getSessionUser (withCookie (some token)) now) = true ↔
      NamesUser env ∧ now.val ≤ ((expiry t : ℤ) : ℚ) := by
  rw [getSessionUser_created h]
  by_cases hcolon : colon ∈ env.viewerUsername
  · rw [verify_colon env hcolon h]
    exact iff_of_false Bool.false_ne_true (fun husable => husable.1.2 hcolon)
  · by_cases hlive : now.val ≤ ((expiry t : ℤ) : ℚ)
    · rw [verify_created env hascii hcolon h hlive]
      simp [truthyText, NamesUser, hcolon, hlive]
    · rw [verify_expired h (not_le.mp hlive)]
      exact iff_of_false Bool.false_ne_true (fun husable => hlive husable.2)

/-- What was accepted later is accepted earlier. -/
lemma checkSessionToken_antitone {now' : Timestamp} (hle : now.val ≤ now'.val)
    (h : env.checkSessionToken token now' = .ok (some user)) :
    env.checkSessionToken token now = .ok (some user) := by
  rw [checkSessionToken, bind_eq_ok] at h ⊢
  obtain ⟨raw, hraw, h⟩ := h
  refine ⟨raw, hraw, ?_⟩
  split at h
  · next username expires sig hparts =>
    obtain ⟨e, he, h⟩ := bind_eq_ok.mp h
    split at h
    · cases h
    · next hlive =>
      refine bind_eq_ok.mpr ⟨e, he, ?_⟩
      rw [if_neg (fun hlt => hlive (hlt.trans_le hle))]
      exact h
  · cases h

lemma truthyText_antitone {jar : Option Str} {now' : Timestamp} (hle : now.val ≤ now'.val)
    (h : truthyText (env.getSessionUser (withCookie jar) now') = true) :
    truthyText (env.getSessionUser (withCookie jar) now) = true := by
  cases jar with
  | none => exact h
  | some token =>
    by_cases hnil : token = []
    · rw [hnil] at h
      exact absurd h Bool.false_ne_true
    · have hget : ∀ t, env.getSessionUser (withCookie (some token)) t = env.verifySessionToken token t :=
        fun t => if_neg hnil
      rw [hget] at h ⊢
      cases hcheck : env.checkSessionToken token now' with
      | error e =>
        rw [verifySessionToken, hcheck] at h
        exact absurd h Bool.false_ne_true
      | ok user =>
        cases user with
        | none =>
          rw [verifySessionToken, hcheck] at h
          exact absurd h Bool.false_ne_true
        | some user =>
          rw [verifySessionToken, hcheck] at h
          rw [verifySessionToken, checkSessionToken_antitone hle hcheck]
          exact h

end Token

/-! ### Refused listings -/

section Listings

variable {config : ViewerConfig} {fs : FileSystem} {jar : Option Str} {now : Timestamp}

/-- Without credentials in the header the cookie decides. -/
lemma authenticated_iff : truthyText (config.getAuthenticatedUser (withCookie jar) now) = true ↔
    truthyText (config.getSessionUser (withCookie jar) now) = true := by
  unfold getAuthenticatedUser
  dsimp only
  split_ifs with h
  · exact Iff.rfl
  · exact iff_of_false Bool.false_ne_true h

lemma requireAuth_cases :
    (truthyText (config.getSessionUser (withCookie jar) now) = true ∧
        ∃ user, config.requireAuth (withCookie jar) now = .ok user) ∨
      (truthyText (config.getSessionUser (withCookie jar) now) = false ∧
        config.requireAuth (withCookie jar) now = .error (.http 401 "Authentication required")) := by
  cases huser : truthyText (config.getSessionUser (withCookie jar) now) with
  | true =>
    have hauth := authenticated_iff.mpr huser
    unfold requireAuth
    cases hget : config.getAuthenticatedUser (withCookie jar) now with
    | none =>
      rw [hget] at hauth
      cases hauth
    | some user =>
      cases user with
      | nil =>
        rw [hget] at hauth
        cases hauth
      | cons c user => exact Or.inl ⟨rfl, _, rfl⟩
  | false =>
    have hauth : truthyText (config.getAuthenticatedUser (withCookie jar) now) = false := by
      rw [Bool.eq_false_iff, ne_eq, authenticated_iff, huser]
      exact Bool.false_ne_true
    unfold requireAuth
    cases hget : config.getAuthenticatedUser (withCookie jar) now with
    | none => exact Or.inr ⟨rfl, rfl⟩
    | some user =>
      cases user with
      | nil => exact Or.inr ⟨rfl, rfl⟩
      | cons c user =>
        rw [hget] at hauth
        cases hauth

/-- A failure that is not about credentials. -/
def NotRefused {α : Type} (r : Except Failure α) : Prop := ∀ detail, r ≠ .error (.http 401 detail)

lemma NotRefused.bind {α β : Type} {x : Except Failure α} {f : α → Except Failure β} (hx : NotRefused x)
    (hf : ∀ a, NotRefused (f a)) : NotRefused (x >>= f) := by
  intro detail h
  cases x with
  | ok a => exact hf a detail h
  | error e => exact hx detail (congrArg Except.error (Except.error.inj h))

lemma NotRefused.ok {α : Type} (a : α) : NotRefused (.ok a) := by
  intro detail h
  cases h

lemma notRefused_raised {α : Type} (x : Except Exn α) : NotRefused (raised x) := by
  intro detail h
  cases x with
  | ok a => cases h
  | error e => cases h

lemma notRefused_validate (value : Str) (name : String) : NotRefused (validatePathParam value name) := by
  intro detail h
  unfold validatePathParam at h
  split_ifs at h
  · cases h
  · cases h

lemma notRefused_mapM {α β : Type} {f : α → Except Failure β} (hf : ∀ a, NotRefused (f a)) (xs : List α) :
    NotRefused (xs.mapM f) := by
  induction xs with
  | nil => exact NotRefused.ok []
  | cons x xs ih =>
    rw [List.mapM_cons]
    exact (hf x).bind (fun b => ih.bind (fun bs => NotRefused.ok (b :: bs)))

lemma notRefused_cameras : NotRefused (getCameras fs) := by
  unfold getCameras
  split_ifs
  · exact (notRefused_raised _).bind (fun _ => NotRefused.ok _)
  · exact NotRefused.ok _

lemma notRefused_dates (camera : Str) : NotRefused (getDates fs camera) := by
  apply (notRefused_validate camera "camera").bind
  intro _
  dsimp only
  split_ifs
  · exact (notRefused_raised _).bind (fun _ => NotRefused.ok _)
  · exact NotRefused.ok _

lemma notRefused_images (camera date : Str) : NotRefused (getImages fs camera date) := by
  apply (notRefused_validate camera "camera").bind
  intro _
  apply (notRefused_validate date "date").bind
  intro _
  dsimp only
  split_ifs
  · apply (notRefused_raised _).bind
    intro names
    apply (notRefused_mapM (fun name => (notRefused_raised _).bind (fun _ => NotRefused.ok _)) _).bind
    intro files
    exact NotRefused.ok _
  · exact NotRefused.ok _

lemma NotRefused.status {r : Except Failure Answer} (h : NotRefused r) : (send fs r).status ≠ 401 := by
  cases r with
  | ok answer =>
    cases answer with
    | names names => simp [send]
    | file path =>
      cases hcontent : fs.content path.toPosixPath with
      | ok bytes => simp [send, hcontent]
      | error e => simp [send, hcontent, internalServerError]
  | error failure =>
    cases failure with
    | http status detail =>
      rintro rfl
      exact h detail rfl
    | exn e => simp [send, internalServerError]

/-- The listings are refused exactly without a session. -/
lemma listing_reply {route : Route} (hroute : IsListing route) :
    (truthyText (config.getSessionUser (withCookie jar) now) = true ∧
        (config.respond fs (withCookie jar) now route).status ≠ 401) ∨
      (truthyText (config.getSessionUser (withCookie jar) now) = false ∧
        config.respond fs (withCookie jar) now route = ⟨401, .detail "Authentication required"⟩) := by
  have hguard : ∀ answer : Except Failure Answer, NotRefused answer →
      config.handle fs (withCookie jar) now route =
        (config.requireAuth (withCookie jar) now >>= fun _ => answer) →
      (truthyText (config.getSessionUser (withCookie jar) now) = true ∧
          (config.respond fs (withCookie jar) now route).status ≠ 401) ∨
        (truthyText (config.getSessionUser (withCookie jar) now) = false ∧
          config.respond fs (withCookie jar) now route = ⟨401, .detail "Authentication required"⟩) := by
    intro answer hanswer hhandle
    unfold ViewerConfig.respond
    rw [hhandle]
    rcases @requireAuth_cases config jar now with ⟨huser, user, hauth⟩ | ⟨huser, hauth⟩
    · rw [hauth]
      exact Or.inl ⟨huser, hanswer.status⟩
    · rw [hauth]
      exact Or.inr ⟨huser, rfl⟩
  cases route with
  | cameras => exact hguard _ notRefused_cameras rfl
  | dates camera => exact hguard _ (notRefused_dates camera) rfl
  | images camera date => exact hguard _ (notRefused_images camera date) rfl
  | image camera date filename token => exact hroute.elim

end Listings

/-! ### Runs -/

section Runs

variable {config : ViewerConfig} {past : List BrowserEvent} {jar jar' : Option Str} {now : Timestamp}

/-- The cookie that the latest login or its end has left. -/
inductive Holds (config : ViewerConfig) : Option (Option Timestamp) → Option Str → Prop
  | never : Holds config none none
  | ended : Holds config (some none) none
  | begun {t : Timestamp} {token : Str} : isAscii config.viewerUsername = true →
      config.createSessionToken config.viewerUsername t = .ok token →
      Holds config (some (some t)) (some token)

lemma Holds.open_iff (h : Holds config (latestOf sessionOf past) jar) :
    truthyText (config.getSessionUser (withCookie jar) now) = true ↔ Open config past now := by
  unfold Open SignedIn
  cases hlatest : latestOf sessionOf past with
  | none =>
    rw [hlatest] at h
    cases h
    exact iff_of_false Bool.false_ne_true (by rintro ⟨-, t, ht, -⟩; cases ht)
  | some session =>
    rw [hlatest] at h
    cases h with
    | ended => exact iff_of_false Bool.false_ne_true (by rintro ⟨-, t, ht, -⟩; cases ht)
    | @begun t token hascii htoken =>
      rw [sessionUser_iff hascii htoken]
      constructor
      · rintro ⟨husable, hlive⟩
        exact ⟨husable, t, rfl, hlive⟩
      · rintro ⟨husable, t', ht', hlive⟩
        obtain rfl := Option.some.inj (Option.some.inj ht')
        exact ⟨husable, hlive⟩

lemma Holds.law (h : Holds config (latestOf sessionOf past) jar) (fs : FileSystem) (v : Visit) :
    PageLaw config past (.visited fs now v (visit config fs jar now v)) := by
  cases hopen : truthyText (config.getSessionUser (withCookie jar) now) with
  | true =>
    have hin : Open config past now := h.open_iff.mp hopen
    cases v with
    | root =>
      refine Or.inl ⟨hin, ?_⟩
      simp only [visit, serveRoot, hopen, if_true]
    | login =>
      refine Or.inl ⟨hin, ?_⟩
      simp only [visit, serveLogin, hopen, if_true]
    | api route =>
      intro hroute
      rcases @listing_reply config fs jar now route hroute with ⟨-, hstatus⟩ | ⟨hclosed, -⟩
      · exact Or.inl ⟨hin, _, rfl, hstatus⟩
      · rw [hopen] at hclosed
        cases hclosed
    | logout => trivial
    | apiLogin username password => trivial
  | false =>
    have hout : ¬ Open config past now := by
      rw [← h.open_iff, hopen]
      exact Bool.false_ne_true
    cases v with
    | root =>
      refine Or.inr ⟨hout, ?_⟩
      simp only [visit, serveRoot, hopen, Bool.false_eq_true, if_false]
    | login =>
      refine Or.inr ⟨hout, ?_⟩
      simp only [visit, serveLogin, hopen, Bool.false_eq_true, if_false]
    | api route =>
      intro hroute
      rcases @listing_reply config fs jar now route hroute with ⟨hopened, -⟩ | ⟨-, hreply⟩
      · rw [hopen] at hopened
        cases hopened
      · exact Or.inr ⟨hout, congrArg Outcome.data hreply⟩
    | logout => trivial
    | apiLogin username password => trivial

/-- Of the outcomes only an accepted login and a logout concern the cookie. -/
lemma Holds.step {e : BrowserEvent} (h : Holds config (latestOf sessionOf past) jar)
    (hstep : BrowserStep config jar e jar') :
    Holds config (latestOf sessionOf (past ++ [e])) jar' ∧ PageLaw config past e := by
  rw [latestOf_snoc]
  cases e with
  | forgot =>
    obtain rfl : jar' = none := hstep
    exact ⟨.ended, trivial⟩
  | visited fs now v outcome =>
    obtain ⟨rfl, rfl⟩ := hstep
    refine ⟨?_, h.law fs v⟩
    cases v with
    | root =>
      have hkept : (visit config fs jar now .root).cookie = .kept := by
        simp only [visit, serveRoot]
        split_ifs <;> rfl
      rw [hkept]
      exact h
    | login =>
      have hkept : (visit config fs jar now .login).cookie = .kept := by
        simp only [visit, serveLogin]
        split_ifs <;> rfl
      rw [hkept]
      exact h
    | logout => exact .ended
    | api route => exact h
    | apiLogin username password =>
      cases hlogin : config.apiLogin username password now with
      | error e =>
        simp only [visit, hlogin]
        exact h
      | ok response =>
        cases response with
        | unauthorized detail =>
          simp only [visit, hlogin]
          exact h
        | ok user token =>
          obtain ⟨hascii, htoken⟩ := apiLogin_accepts hlogin
          simp only [visit, hlogin]
          exact .begun hascii htoken

/-- In every sequence of visits the pages and listings are open exactly for who is signed in. -/
theorem pages_follow_logins {events : List BrowserEvent} (h : BrowserRun config events jar) :
    Along (PageLaw config) events := by
  have hinv : Holds config (latestOf sessionOf events) jar ∧ Along (PageLaw config) events := by
    apply h.invariant (fun events jar => Holds config (latestOf sessionOf events) jar ∧
      Along (PageLaw config) events)
    · exact ⟨.never, along_nil _⟩
    · rintro events jar e jar' ⟨hholds, hlaw⟩ hstep
      obtain ⟨hnext, hevent⟩ := hholds.step hstep
      exact ⟨hnext, along_snoc_iff.mpr ⟨hlaw, hevent⟩⟩
  exact hinv.2

/-- A login followed by a visit of the index page. -/
theorem pages_follow_logins_admin : ∃ (login root : Outcome) (jar : Option Str),
    BrowserRun tokenConfig [.visited emptyFs timeZero (.apiLogin (lit "admin") (lit "password123")) login,
      .visited emptyFs timeZero .root root] jar ∧
    Along (PageLaw tokenConfig) [.visited emptyFs timeZero (.apiLogin (lit "admin") (lit "password123")) login,
      .visited emptyFs timeZero .root root] := by
  have hstep : ∀ (jar : Option Str) (v : Visit), BrowserStep tokenConfig jar
      (.visited emptyFs timeZero v (visit tokenConfig emptyFs jar timeZero v))
      ((visit tokenConfig emptyFs jar timeZero v).cookie.apply jar) := fun _ _ => ⟨rfl, rfl⟩
  have hrun := (Transition.Run.single
    (hstep none (.apiLogin (lit "admin") (lit "password123")))).snoc (hstep _ .root)
  exact ⟨_, _, _, hrun, pages_follow_logins hrun⟩

end Runs

/-! ### Redirects -/

section Journeys

variable {config : ViewerConfig} {jar : Option Str} {polls : List Poll}

/-- The session that the cookie stands for. -/
abbrev Valid (config : ViewerConfig) (jar : Option Str) (now : Timestamp) : Bool :=
  truthyText (config.getSessionUser (withCookie jar) now)

lemma move_root (poll : Poll) : move config jar poll .root =
    if Valid config jar poll.now then .indexPage else .login := by
  unfold move serveRoot
  dsimp only
  split_ifs <;> rfl

lemma move_login (poll : Poll) : move config jar poll .login =
    if Valid config jar poll.now then .root else .loginPage := by
  unfold move serveLogin
  dsimp only
  split_ifs <;> rfl

lemma move_indexPage (poll : Poll) : move config jar poll .indexPage =
    if Valid config jar poll.now then .indexPage else .login := by
  unfold move
  dsimp only
  rcases @listing_reply config poll.fs jar poll.now poll.route poll.listing with
    ⟨hopen, hstatus⟩ | ⟨hclosed, hreply⟩
  · rw [if_neg hstatus, if_pos hopen]
  · have hclosed' : Valid config jar poll.now = false := hclosed
    rw [if_pos (congrArg Reply.status hreply), hclosed', if_neg Bool.false_ne_true]

/-- The login page waits for its form. -/
lemma journey_loginPage : (journey config jar .loginPage polls).count .login = 0 ∧
    (journey config jar .loginPage polls).count .root = 0 := by
  induction polls with
  | nil => exact ⟨rfl, rfl⟩
  | cons poll polls ih => exact ih

/-- Once the session has ended, the login page is reached and kept. -/
lemma journey_login_closed (h : ∀ poll ∈ polls, Valid config jar poll.now = false) :
    (journey config jar .login polls).count .login = 0 ∧
      (journey config jar .login polls).count .root = 0 := by
  cases polls with
  | nil => exact ⟨rfl, rfl⟩
  | cons poll polls =>
    rw [journey, move_login, h poll List.mem_cons_self]
    exact journey_loginPage

/-- The session has ended at `now`, and does not begin again. -/
lemma closed_after {poll : Poll} (hsorted : (poll :: polls).Pairwise (fun p q => p.now.val ≤ q.now.val))
    (h : Valid config jar poll.now = false) : ∀ q ∈ polls, Valid config jar q.now = false := by
  intro q hq
  rw [Bool.eq_false_iff]
  intro hlater
  have hearlier : Valid config jar poll.now = true :=
    truthyText_antitone (List.rel_of_pairwise_cons hsorted hq) hlater
  rw [h] at hearlier
  cases hearlier

/-- From the index page, or on the way to it, at most one move leads to `/login`, and none to `/`. -/
lemma journey_indexPage {place : Spot} (hplace : place = .indexPage ∨ place = .root)
    (hsorted : polls.Pairwise (fun p q => p.now.val ≤ q.now.val)) :
    (journey config jar place polls).count .login ≤ 1 ∧
      (journey config jar place polls).count .root = 0 := by
  induction polls generalizing place with
  | nil => exact ⟨Nat.zero_le 1, rfl⟩
  | cons poll polls ih =>
    have hmove : move config jar poll place = if Valid config jar poll.now then .indexPage else .login := by
      rcases hplace with rfl | rfl
      · exact move_indexPage poll
      · exact move_root poll
    rw [journey, hmove]
    cases hvalid : Valid config jar poll.now with
    | true =>
      have hrest := @ih .indexPage (Or.inl rfl) (List.Pairwise.of_cons hsorted)
      exact hrest
    | false =>
      obtain ⟨hlogin, hroot⟩ := journey_login_closed (closed_after hsorted hvalid)
      rw [if_neg Bool.false_ne_true, List.count_cons_self, List.count_cons_of_ne (by decide), hlogin, hroot]
      exact ⟨le_rfl, rfl⟩

/-- Whatever the cookie, the redirects come to rest: at most one leads to `/login` and one to `/`. -/
theorem journey_settles (place : Spot) (hsorted : polls.Pairwise (fun p q => p.now.val ≤ q.now.val)) :
    (journey config jar place polls).count .login ≤ 1 ∧
      (journey config jar place polls).count .root ≤ 1 := by
  have hindex : ∀ {place : Spot} {polls : List Poll}, place = .indexPage ∨ place = .root →
      polls.Pairwise (fun p q => p.now.val ≤ q.now.val) →
      (journey config jar place polls).count .login ≤ 1 ∧
        (journey config jar place polls).count .root ≤ 1 := by
    intro place polls hplace hsorted
    obtain ⟨hlogin, hroot⟩ := @journey_indexPage config jar polls place hplace hsorted
    exact ⟨hlogin, hroot.trans_le (Nat.zero_le 1)⟩
  cases place with
  | root => exact hindex (Or.inr rfl) hsorted
  | indexPage => exact hindex (Or.inl rfl) hsorted
  | loginPage =>
    obtain ⟨hlogin, hroot⟩ := @journey_loginPage config jar polls
    exact ⟨hlogin.trans_le (Nat.zero_le 1), hroot.trans_le (Nat.zero_le 1)⟩
  | login =>
    cases polls with
    | nil => exact ⟨Nat.zero_le 1, Nat.zero_le 1⟩
    | cons poll polls =>
      rw [journey, move_login]
      split_ifs
      · obtain ⟨hlogin, hroot⟩ :=
          @journey_indexPage config jar polls .root (Or.inr rfl) (List.Pairwise.of_cons hsorted)
        rw [List.count_cons_of_ne (by decide), List.count_cons_self, hroot]
        exact ⟨hlogin, le_rfl⟩
      · obtain ⟨hlogin, hroot⟩ := @journey_loginPage config jar polls
        rw [List.count_cons_of_ne (by decide), List.count_cons_of_ne (by decide), hlogin, hroot]
        exact ⟨Nat.zero_le 1, Nat.zero_le 1⟩

/-- Eight days after the login. -/
def eighthDay : Timestamp := ⟨691200, by
  rw [abs_of_nonneg (by norm_num)]
  exact lt_of_lt_of_le (by norm_num) (pow_le_pow_right₀ (by norm_num) (by norm_num : 20 ≤ 1024))⟩

def camerasPoll (now : Timestamp) : Poll := ⟨emptyFs, now, .cameras, trivial⟩

/-- The session expires between the two pages. -/
theorem journey_settles_expired : ∃ jar,
    journey tokenConfig jar .login [camerasPoll timeZero, camerasPoll eighthDay, camerasPoll eighthDay] =
        [.root, .login, .loginPage] ∧
      (journey tokenConfig jar .login
        [camerasPoll timeZero, camerasPoll eighthDay, camerasPoll eighthDay]).count .login ≤ 1 ∧
      (journey tokenConfig jar .login
        [camerasPoll timeZero, camerasPoll eighthDay, camerasPoll eighthDay]).count .root ≤ 1 := by
  have hascii : isAscii tokenConfig.viewerUsername = true := by decide
  obtain ⟨token, htoken⟩ := createSessionToken_isOk tokenConfig.toViewerEnv hascii timeZero
  have hexpiry : expiry timeZero = 604800 := by decide
  have hvalid : Valid tokenConfig (some token) timeZero = true := by
    apply (sessionUser_iff hascii htoken).mpr
    rw [hexpiry]
    exact ⟨⟨by decide, by decide⟩, by norm_num [timeZero]⟩
  have hexpired : Valid tokenConfig (some token) eighthDay = false := by
    rw [Bool.eq_false_iff]
    intro h
    have hlive := ((sessionUser_iff hascii htoken).mp h).2
    rw [hexpiry] at hlive
    norm_num [eighthDay] at hlive
  have hsorted : [camerasPoll timeZero, camerasPoll eighthDay, camerasPoll eighthDay].Pairwise
      (fun p q => p.now.val ≤ q.now.val) := by
    simp [camerasPoll, timeZero, eighthDay]
  refine ⟨some token, ?_, journey_settles .login hsorted⟩
  have hfirst : Valid tokenConfig (some token) (camerasPoll timeZero).now = true := hvalid
  have hsecond : Valid tokenConfig (some token) (camerasPoll eighthDay).now = false := hexpired
  simp only [journey, move_login, move_root, hfirst, hsecond, if_true, Bool.false_eq_true, if_false]

end Journeys

end IntruderWatch.Proofs
