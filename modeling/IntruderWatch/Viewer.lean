import IntruderWatch.Library.PosixPath
import IntruderWatch.Session

/-!
# The viewer service

Credentials, and the routes that list and serve the captures. The file system is a parameter, as
one content of the disk that a request sees; the path resolution may follow links.
-/

namespace IntruderWatch
open Py

/-! ### Requests and answers -/

/-- The parts of a request that decide about its credentials. -/
structure Request where
  sessionToken : Option Str
  authorization : Option Str

/-- An exception in a handler, an `HTTPException` or another one. -/
inductive Failure
  | http (status : ℕ) (detail : String)
  | exn (e : Exn)

def raised {α : Type} : Except Exn α → Except Failure α :=
  Except.mapError .exn

inductive Answer
  | names (names : List Str)
  | file (path : ResolvedPath)

structure FileSystem where
  resolve : PosixPath → Except Exn ResolvedPath
  pathExists : PosixPath → Bool
  isFile : PosixPath → Bool
  isDir : PosixPath → Bool
  /-- The names in a directory. -/
  iterdir : PosixPath → Except Exn (List Str)
  mtime : PosixPath → Except Exn ℚ
  content : PosixPath → Except Exn (List UInt8)

inductive Body
  | names (names : List Str)
  | content (bytes : List UInt8)
  | detail (detail : String)

structure Reply where
  status : ℕ
  body : Body

def internalServerError : Reply := ⟨500, .detail "Internal Server Error"⟩

/-- The reply for the outcome of a handler; a file is read while it is sent. -/
def send (fs : FileSystem) : Except Failure Answer → Reply
  | .ok (.names names) => ⟨200, .names names⟩
  | .ok (.file path) =>
    match fs.content path.toPosixPath with
    | .ok bytes => ⟨200, .content bytes⟩
    | .error _ => internalServerError
  | .error (.http status detail) => ⟨status, .detail detail⟩
  | .error (.exn _) => internalServerError

/-! ### Credentials -/

def space : CodePoint := ofChar ' '

/-- `bool(s)` for a string or `None`. -/
def truthyText : Option Str → Bool
  | none => false
  | some user => user ≠ []

namespace ViewerEnv

variable (env : ViewerEnv)

def getSessionUser (request : Request) (now : Timestamp) : Option Str :=
  match request.sessionToken with
  | none => none
  | some token => if token = [] then none else env.verifySessionToken token now

/-- The body of the `try` statement. -/
def checkBasicAuth (authHeader : Str) : Except Exn (Option Str) := do
  let (_, b64Creds) ← (splitFirst space authHeader).elim (.error .other) .ok
  let bytes ← b64decode (.str (strip b64Creds))
  let decoded ← decode bytes
  let (username, password) ← (splitFirst colon decoded).elim (.error .valueError) .ok
  if ← compareDigest username env.viewerUsername then
    if ← compareDigest password env.viewerPassword then return some username
  return none

def basicUser (authHeader : Str) : Option Str :=
  if (lit "Basic ").isPrefixOf authHeader then
    match env.checkBasicAuth authHeader with
    | .ok user => user
    | .error _ => none
  else none

def getAuthenticatedUser (request : Request) (now : Timestamp) : Option Str :=
  let user := env.getSessionUser request now
  if truthyText user then user
  else request.authorization.bind env.basicUser

def requireAuth (request : Request) (now : Timestamp) : Except Failure Str :=
  match env.getAuthenticatedUser request now with
  | some (c :: user) => .ok (c :: user)
  | _ => .error (.http 401 "Authentication required")

end ViewerEnv

/-! ### The captures -/

def backslash : CodePoint := ofChar '\\'

/-- The test of `validate_path_param`. -/
def invalidCharacter (value : Str) : Bool :=
  [period, period] <:+: value || value.any (· = slash) || value.any (· = backslash)

lemma invalidCharacter_eq_false {value : Str} : invalidCharacter value = false ↔
    ¬ [period, period] <:+: value ∧ slash ∉ value ∧ backslash ∉ value := by
  have hany : ∀ c, value.any (· = c) = false ↔ c ∉ value := by
    intro c
    rw [List.any_eq_false]
    constructor
    · intro h hmem
      exact h c hmem (decide_eq_true rfl)
    · intro h d hd heq
      exact h (of_decide_eq_true heq ▸ hd)
  rw [invalidCharacter, Bool.or_eq_false_iff, Bool.or_eq_false_iff, hany, hany, and_assoc,
    decide_eq_false_iff_not]

def validatePathParam (value : Str) (name : String) : Except Failure Unit :=
  if value = [] then .error (.http 400 ("Empty " ++ name))
  else if invalidCharacter value then .error (.http 400 ("Invalid character in " ++ name))
  else .ok ()

def capturesDir : PosixPath := .ofText (lit "/app/captures")

/-- `sorted(names)`. -/
def sorted (names : List Str) : List Str :=
  names.mergeSort (fun a b => decide (a ≤ b))

/-- `sorted(names, reverse=True)`. -/
def sortedReverse (names : List Str) : List Str :=
  names.mergeSort (fun a b => decide (b ≤ a))

/-- `s.lower()`, exact for whether it is one of `imageSuffixes`: beyond ASCII only U+0130 and U+212A
have ASCII letters in their lower case, `i` and `k`, which no suffix has. -/
def lower (s : Str) : Str :=
  s.map (fun c => if 65 ≤ c.val ∧ c.val ≤ 90 then codePoint (c.val + 32) else c)

def imageSuffixes : List Str := [lit ".png", lit ".jpg", lit ".jpeg"]

section Listings

variable (fs : FileSystem)

def getCameras : Except Failure Answer :=
  if fs.pathExists capturesDir then do
    let names ← raised (fs.iterdir capturesDir)
    let cameras := names.filter (fun name =>
      fs.isDir (capturesDir.join name) && (lit "camera_").isPrefixOf name)
    .ok (.names (sorted cameras))
  else .ok (.names [])

def getDates (camera : Str) : Except Failure Answer := do
  validatePathParam camera "camera"
  let cameraPath := capturesDir.join camera
  if fs.pathExists cameraPath then
    let names ← raised (fs.iterdir cameraPath)
    let dates := names.filter (fun name => fs.isDir (cameraPath.join name))
    .ok (.names (sortedReverse dates))
  else .ok (.names [])

/-- The newest first. -/
def byMtime (files : List (Str × ℚ)) : List Str :=
  (files.mergeSort (fun f g => decide (g.2 ≤ f.2))).map Prod.fst

def getImages (camera date : Str) : Except Failure Answer := do
  validatePathParam camera "camera"
  validatePathParam date "date"
  let datePath := (capturesDir.join camera).join date
  if fs.pathExists datePath then
    let names ← raised (fs.iterdir datePath)
    let imageFiles := names.filter (fun name =>
      fs.isFile (datePath.join name) && lower (suffix name) ∈ imageSuffixes)
    let files ← imageFiles.mapM (fun name => do
      let mtime ← raised (fs.mtime (datePath.join name))
      .ok (name, mtime))
    .ok (.names (byMtime files))
  else .ok (.names [])

/-- The body of the `try` statement of `serve_image`. -/
def checkImagePath (camera date filename : Str) : Except Failure ResolvedPath := do
  let imagePath ← raised (fs.resolve (((capturesDir.join camera).join date).join filename))
  let basePath ← raised (fs.resolve capturesDir)
  if !basePath.text.isPrefixOf imagePath.text then
    .error (.http 403 "Forbidden: Path traversal blocked")
  else if !fs.pathExists imagePath.toPosixPath || !fs.isFile imagePath.toPosixPath then
    .error (.http 404 "Image not found")
  else .ok imagePath

end Listings

/-- The module constants with the token that alert links carry, if one is configured. -/
structure ViewerConfig extends ViewerEnv where
  alertBypassToken : Option Str

inductive Route
  | cameras
  | dates (camera : Str)
  | images (camera date : Str)
  | image (camera date filename : Str) (token : Option Str)

namespace ViewerConfig

variable (env : ViewerConfig)

/-- `ALERT_BYPASS_TOKEN and token == ALERT_BYPASS_TOKEN`. -/
def isBypass (token : Option Str) : Bool :=
  truthyText env.alertBypassToken && token = env.alertBypassToken

def imageAuthenticated (token : Option Str) (request : Request) (now : Timestamp) : Bool :=
  env.isBypass token || truthyText (env.getAuthenticatedUser request now)

def serveImage (fs : FileSystem) (camera date filename : Str) (token : Option Str)
    (request : Request) (now : Timestamp) : Except Failure Answer := do
  validatePathParam camera "camera"
  validatePathParam date "date"
  validatePathParam filename "filename"
  if !env.imageAuthenticated token request now then .error (.http 401 "Authentication required")
  else
    match checkImagePath fs camera date filename with
    | .ok imagePath => .ok (.file imagePath)
    | .error (.http status detail) => .error (.http status detail)
    | .error (.exn _) => .error (.http 400 "Invalid path request")

/-- The dependencies of a route run before its handler. -/
def handle (fs : FileSystem) (request : Request) (now : Timestamp) : Route → Except Failure Answer
  | .cameras => do
    let _ ← env.requireAuth request now
    getCameras fs
  | .dates camera => do
    let _ ← env.requireAuth request now
    getDates fs camera
  | .images camera date => do
    let _ ← env.requireAuth request now
    getImages fs camera date
  | .image camera date filename token => env.serveImage fs camera date filename token request now

def respond (fs : FileSystem) (request : Request) (now : Timestamp) (route : Route) : Reply :=
  send fs (env.handle fs request now route)

end ViewerConfig

end IntruderWatch
