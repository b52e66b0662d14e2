import IntruderWatch.Library.Runs
import IntruderWatch.Viewer

/-!
# Pages and the session cookie

The pages of the viewer service with the redirects between them, and what the replies do to the cookie
that a browser holds. The browser sends the cookie with every request, and may lose it at any time, at
the end of its age or before.
-/

namespace IntruderWatch
open Py

/-! ### Replies -/

/-- What a reply does to the session cookie. -/
inductive SetCookie
  | kept
  | stored (value : Str) (maxAge : ℤ)
  | deleted

structure PageReply where
  status : ℕ
  location : Option Str
  file : Option Str
  cookie : SetCookie
  cacheControl : Str

def noStore : Str := lit "no-cache, no-store, must-revalidate"

/-- `RedirectResponse(url, 303)` with its `Cache-Control`. -/
def seeOther (url : Str) : PageReply := ⟨303, some url, none, .kept, noStore⟩

/-- `FileResponse(file)` with its `Cache-Control`. -/
def htmlPage (file : Str) : PageReply := ⟨200, none, some file, .kept, noStore⟩

namespace ViewerEnv

variable (env : ViewerEnv)

def serveLogin (request : Request) (now : Timestamp) : PageReply :=
  if truthyText (env.getSessionUser request now) then seeOther (lit "/")
  else htmlPage (lit "login.html")

def serveRoot (request : Request) (now : Timestamp) : PageReply :=
  if truthyText (env.getSessionUser request now) then htmlPage (lit "index.html")
  else seeOther (lit "/login")

def logout : PageReply := { seeOther (lit "/login") with cookie := .deleted }

end ViewerEnv

/-! ### A browser -/

inductive Visit
  | root
  | login
  | logout
  | apiLogin (username password : Str)
  | api (route : Route)

inductive Outcome
  | page (reply : PageReply)
  | login (response : Except Exn ViewerEnv.LoginResponse)
  | data (reply : Reply)

def Outcome.cookie : Outcome → SetCookie
  | .page reply => reply.cookie
  | .login (.ok (.ok _ token)) => .stored token sessionMaxAge
  | .login _ => .kept
  | .data _ => .kept

/-- The cookie after the reply; an age of zero seconds deletes it. -/
def SetCookie.apply : SetCookie → Option Str → Option Str
  | .kept, jar => jar
  | .stored value _, _ => some value
  | .deleted, _ => none

/-- A request of the browser carries the cookie and no credentials. -/
def withCookie (jar : Option Str) : Request := ⟨jar, none⟩

def visit (config : ViewerConfig) (fs : FileSystem) (jar : Option Str) (now : Timestamp) : Visit → Outcome
  | .root => .page (config.serveRoot (withCookie jar) now)
  | .login => .page (config.serveLogin (withCookie jar) now)
  | .logout => .page ViewerEnv.logout
  | .apiLogin username password => .login (config.apiLogin username password now)
  | .api route => .data (config.respond fs (withCookie jar) now route)

inductive BrowserEvent
  | visited (fs : FileSystem) (now : Timestamp) (v : Visit) (outcome : Outcome)
  | forgot

/-- The state is the session cookie. -/
def BrowserStep (config : ViewerConfig) (jar : Option Str) : BrowserEvent → Option Str → Prop
  | .visited fs now v outcome, jar' =>
    outcome = visit config fs jar now v ∧ jar' = outcome.cookie.apply jar
  | .forgot, jar' => jar' = none

abbrev BrowserRun (config : ViewerConfig) := Transition.Run (BrowserStep config) none

/-! ### Following the redirects -/

/-- Where the browser is: it waits for a page, or shows one. -/
inductive Spot
  | root
  | login
  | indexPage
  | loginPage
deriving DecidableEq

/-- Where a reply leads; `/` and `/login` are the only targets. -/
def PageReply.target (reply : PageReply) : Spot :=
  match reply.location with
  | some url => if url = lit "/login" then .login else .root
  | none => if reply.file = some (lit "index.html") then .indexPage else .loginPage

/-- The routes that the index page fetches, which are those behind `require_auth`. -/
def IsListing : Route → Prop
  | .cameras | .dates _ | .images _ _ => True
  | .image _ _ _ _ => False

/-- A fetch of the index page, which leads to the login page if it is refused. -/
structure Poll where
  fs : FileSystem
  now : Timestamp
  route : Route
  listing : IsListing route

def move (config : ViewerConfig) (jar : Option Str) (poll : Poll) : Spot → Spot
  | .root => (config.serveRoot (withCookie jar) poll.now).target
  | .login => (config.serveLogin (withCookie jar) poll.now).target
  | .indexPage =>
    if (config.respond poll.fs (withCookie jar) poll.now poll.route).status = 401 then .login
    else .indexPage
  | .loginPage => .loginPage

/-- The places after each of the moves. -/
def journey (config : ViewerConfig) (jar : Option Str) : Spot → List Poll → List Spot
  | _, [] => []
  | place, poll :: polls =>
    move config jar poll place :: journey config jar (move config jar poll place) polls

end IntruderWatch
