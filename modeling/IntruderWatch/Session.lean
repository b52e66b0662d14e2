import Mathlib.Algebra.Order.Field.Rat
import IntruderWatch.Library.Base64
import IntruderWatch.Library.PyInt

/-!
# Session tokens

The signed session cookies of the viewer service. `hmac.new(..).hexdigest()` is a parameter, a
function of secret and payload to text of hexadecimal digits. `time.time()` is a rational in
the range of a float.
-/

namespace IntruderWatch
open Py

def isHexDigit (c : CodePoint) : Bool :=
  (48 ≤ c.val && c.val ≤ 57) || (97 ≤ c.val && c.val ≤ 102)

structure Hmac where
  hexdigest : List UInt8 → List UInt8 → Str
  hex : ∀ secret payload, ∀ c ∈ hexdigest secret payload, isHexDigit c = true

/-- A reading of `time.time()`. -/
abbrev Timestamp := {t : ℚ // |t| < 2 ^ 1024}

/-- `int(t)`, which drops the fraction. -/
def Timestamp.toInt (t : Timestamp) : ℤ := t.val.num.tdiv t.val.den

/-- The module constants of the viewer service. -/
structure ViewerEnv where
  hmac : Hmac
  viewerUsername : Str
  viewerPassword : Str
  sessionSecretBytes : List UInt8

def sessionMaxAge : ℤ := 7 * 86400

def colon : CodePoint := ofChar ':'

/-- `secrets.compare_digest` on two strings. -/
def compareDigest (a b : Str) : Except Exn Bool :=
  if isAscii a && isAscii b then .ok (decide (a = b)) else .error .typeError

namespace ViewerEnv

variable (env : ViewerEnv)

def signature (payload : List UInt8) : Str :=
  env.hmac.hexdigest env.sessionSecretBytes payload

def createSessionToken (username : Str) (now : Timestamp) : Except Exn Str := do
  let expiresAt := now.toInt + sessionMaxAge
  let expiresStr ← intStr expiresAt
  let payload ← encode (username ++ colon :: expiresStr)
  let signature := env.signature payload
  let raw ← encode (username ++ colon :: (expiresStr ++ colon :: signature))
  decode (Base64.urlsafeEncode raw)

/-- `base64.urlsafe_b64decode(token.encode()).decode()`. -/
def decodeToken (token : Str) : Except Exn Str := do
  let bytes ← encode token
  let data ← (Base64.urlsafeDecode bytes).elim (.error .binasciiError) .ok
  decode data

/-- The body of the `try` statement. -/
def checkSessionToken (token : Str) (now : Timestamp) : Except Exn (Option Str) := do
  let raw ← decodeToken token
  match split colon raw with
  | [username, expiresAtStr, signature] =>
    let expiresAt ← parseInt expiresAtStr
    if (expiresAt.val : ℚ) < now.val then return none
    let expiresStr ← intStr expiresAt.val
    let payload ← encode (username ++ colon :: expiresStr)
    let expectedSig := env.signature payload
    if ← compareDigest signature expectedSig then
      if ← compareDigest username env.viewerUsername then return some username
    return none
  | _ => return none

def verifySessionToken (token : Str) (now : Timestamp) : Option Str :=
  match env.checkSessionToken token now with
  | .ok user => user
  | .error _ => none

/-- The answers of `POST /api/login`. -/
inductive LoginResponse
  | unauthorized (detail : String)
  | ok (user : Str) (sessionToken : Str)

def apiLogin (username password : Str) (now : Timestamp) : Except Exn LoginResponse := do
  let isCorrectUsername ← compareDigest username env.viewerUsername
  let isCorrectPassword ← compareDigest password env.viewerPassword
  if !(isCorrectUsername && isCorrectPassword) then
    return .unauthorized "Invalid username or password"
  let token ← env.createSessionToken env.viewerUsername now
  return .ok env.viewerUsername token

/-- The status of the reply; an exception of the handler becomes a server error. -/
def loginStatus : Except Exn LoginResponse → ℕ
  | .ok (.ok _ _) => 200
  | .ok (.unauthorized _) => 401
  | .error _ => 500

end ViewerEnv

end IntruderWatch
