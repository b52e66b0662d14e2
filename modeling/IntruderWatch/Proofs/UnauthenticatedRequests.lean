import IntruderWatch.Proofs.ImageContainment

/-!
# Requests without a credential

On the listing routes the dependency refuses such a request before the handler runs, and
`serve_image` looks at the parameters and the credentials before the file system. The reply is the
same for any two contents of the captures tree.
-/

namespace IntruderWatch.Proofs
open Py

section Credentials

variable {env : ViewerEnv} {request : Request} {now : Timestamp} {authHeader : Str}

/-- The header carries the configured username and password. -/
def BasicMatches (env : ViewerEnv) (authHeader : Str) : Prop :=
  ∃ b64Creds bytes, authHeader = lit "Basic " ++ b64Creds ∧
    b64decode (.str (strip b64Creds)) = .ok bytes ∧
    decode bytes = .ok (env.viewerUsername ++ colon :: env.viewerPassword)

lemma compareDigest_true {a b : Str} (h : compareDigest a b = .ok true) : a = b := by
  rw [compareDigest] at h
  split_ifs at h
  exact of_decide_eq_true (Except.ok.inj h)

lemma checkBasicAuth_some {b64Creds user : Str}
    (h : env.checkBasicAuth (lit "Basic " ++ b64Creds) = .ok (some user)) :
    BasicMatches env (lit "Basic " ++ b64Creds) := by
  have hfirst : splitFirst space (lit "Basic " ++ b64Creds) = some (lit "Basic", b64Creds) := by
    have hlit : lit "Basic " ++ b64Creds = lit "Basic" ++ space :: b64Creds := rfl
    rw [hlit]
    exact splitFirst_append (by decide) b64Creds
  rw [ViewerEnv.checkBasicAuth, hfirst] at h
  obtain ⟨⟨scheme, creds⟩, hcreds, h⟩ := bind_eq_ok.mp h
  obtain ⟨-, rfl⟩ := Prod.mk.inj (Except.ok.inj hcreds)
  obtain ⟨bytes, hbytes, h⟩ := bind_eq_ok.mp h
  obtain ⟨decoded, hdecoded, h⟩ := bind_eq_ok.mp h
  obtain ⟨⟨username, password⟩, hpair, h⟩ := bind_eq_ok.mp h
  obtain ⟨sameUser, huser, h⟩ := bind_eq_ok.mp h
  cases sameUser with
  | false => cases h
  | true =>
    obtain ⟨samePassword, hpassword, h⟩ := bind_eq_ok.mp h
    cases samePassword with
    | false => cases h
    | true =>
      obtain rfl := compareDigest_true huser
      obtain rfl := compareDigest_true hpassword
      cases hsplit : splitFirst colon decoded with
      | none =>
        rw [hsplit] at hpair
        cases hpair
      | some pair =>
        rw [hsplit] at hpair
        obtain rfl := Except.ok.inj hpair
        have hdec := (splitFirst_eq_some hsplit).1
        exact ⟨b64Creds, bytes, rfl, hbytes, hdecoded.trans (congrArg _ hdec)⟩

lemma basicUser_eq_none (h : ¬ BasicMatches env authHeader) : env.basicUser authHeader = none := by
  rw [ViewerEnv.basicUser]
  split_ifs with hbasic
  · obtain ⟨b64Creds, rfl⟩ := List.isPrefixOf_iff_prefix.mp hbasic
    cases hcheck : env.checkBasicAuth (lit "Basic " ++ b64Creds) with
    | error e => rfl
    | ok user =>
      cases user with
      | none => rfl
      | some user => exact absurd (checkBasicAuth_some hcheck) h
  · rfl

lemma getAuthenticatedUser_eq_none
    (hcookie : ∀ token, request.sessionToken = some token → env.verifySessionToken token now = none)
    (hbasic : ∀ header, request.authorization = some header → ¬ BasicMatches env header) :
    env.getAuthenticatedUser request now = none := by
  have hsession : env.getSessionUser request now = none := by
    rw [ViewerEnv.getSessionUser]
    cases htoken : request.sessionToken with
    | none => rfl
    | some token =>
      have hnone := hcookie token htoken
      simp [hnone]
  have hheader : request.authorization.bind env.basicUser = none := by
    cases hauth : request.authorization with
    | none => rfl
    | some header => exact basicUser_eq_none (hbasic header hauth)
  rw [ViewerEnv.getAuthenticatedUser, hsession, hheader]
  rfl

end Credentials

/-! ### The reply -/

/-- The request carries no accepted cookie, no matching Basic header and, for an image, not the
configured token. -/
structure Unauthenticated (env : ViewerConfig) (request : Request) (now : Timestamp)
    (route : Route) : Prop where
  cookie : ∀ token, request.sessionToken = some token → env.verifySessionToken token now = none
  basic : ∀ header, request.authorization = some header → ¬ BasicMatches env.toViewerEnv header
  bypass : ∀ camera date filename token, route = .image camera date filename (some token) →
    token ≠ [] → env.alertBypassToken ≠ some token

section Replies

variable {env : ViewerConfig} {request : Request} {now : Timestamp} {route : Route}

lemma Unauthenticated.user (h : Unauthenticated env request now route) :
    env.getAuthenticatedUser request now = none :=
  getAuthenticatedUser_eq_none h.cookie h.basic

/-- The dependency refuses the request in front of any handler. -/
lemma Unauthenticated.required (h : Unauthenticated env request now route)
    (handler : Except Failure Answer) :
    (do let _ ← env.requireAuth request now; handler) = .error (.http 401 "Authentication required") := by
  rw [ViewerEnv.requireAuth, h.user]
  rfl

lemma Unauthenticated.image {camera date filename : Str} {token : Option Str}
    (h : Unauthenticated env request now (.image camera date filename token)) :
    env.imageAuthenticated token request now = false := by
  rw [ViewerConfig.imageAuthenticated, h.user, truthyText, Bool.or_false, ViewerConfig.isBypass]
  cases hconfigured : env.alertBypassToken with
  | none => rfl
  | some configured =>
    cases token with
    | none => simp
    | some token =>
      by_cases hnil : token = []
      · simp [hnil, truthyText]
      · have hne := h.bypass camera date filename token rfl hnil
        rw [hconfigured] at hne
        simp [Ne.symm hne]

/-- A refused request never reaches the file system. -/
lemma handle_unauthenticated (h : Unauthenticated env request now route) :
    ∃ status detail, ∀ fs, env.handle fs request now route = .error (.http status detail) := by
  cases route with
  | cameras => exact ⟨401, _, fun fs => h.required (getCameras fs)⟩
  | dates camera => exact ⟨401, _, fun fs => h.required (getDates fs camera)⟩
  | images camera date => exact ⟨401, _, fun fs => h.required (getImages fs camera date)⟩
  | image camera date filename token =>
    apply serveImage_refused
    intro hadmitted
    have hcredential := hadmitted.credential
    rw [h.image] at hcredential
    cases hcredential

/-- An unauthenticated request gets the same reply from any two contents of the captures tree. -/
theorem unauthenticated_reply_independent (h : Unauthenticated env request now route)
    (fs fs' : FileSystem) : env.respond fs request now route = env.respond fs' request now route := by
  obtain ⟨status, detail, hrefused⟩ := handle_unauthenticated h
  rw [ViewerConfig.respond, ViewerConfig.respond, hrefused fs, hrefused fs']
  rfl

end Replies

/-- A malformed cookie, and Basic credentials with a wrong password. -/
def wrongRequest : Request where
  sessionToken := some (lit "x")
  authorization := some (lit "Basic YWRtaW46d3Jvbmc=")

def emptyFs : FileSystem where
  resolve := fun _ => .error .osError
  pathExists := fun _ => false
  isFile := fun _ => false
  isDir := fun _ => false
  iterdir := fun _ => .error .osError
  mtime := fun _ => .error .osError
  content := fun _ => .error .osError

lemma not_basicMatches_wrong : ¬ BasicMatches adminEnv (lit "Basic YWRtaW46d3Jvbmc=") := by
  rintro ⟨b64Creds, bytes, hheader, hbytes, hdecoded⟩
  have hheader' : lit "Basic " ++ lit "YWRtaW46d3Jvbmc=" = lit "Basic " ++ b64Creds := hheader
  obtain rfl := List.append_cancel_left hheader'
  have hwrong : b64decode (.str (strip (lit "YWRtaW46d3Jvbmc="))) =
      .ok [97, 100, 109, 105, 110, 58, 119, 114, 111, 110, 103] := by rfl
  obtain rfl := Except.ok.inj (hwrong.symm.trans hbytes)
  have hadmin : decode [97, 100, 109, 105, 110, 58, 119, 114, 111, 110, 103] =
      .ok (lit "admin:wrong") := by rfl
  have hpair := Except.ok.inj (hadmin.symm.trans hdecoded)
  exact absurd hpair (by decide)

/-- A guessed token on the picture in the backup, with and without the backup. -/
theorem unauthenticated_reply_independent_wrong :
    tokenConfig.respond linkedFs wrongRequest timeZero
        (.image (lit "camera_1") (lit "2026-10-01") (lit "a.jpg") (some (lit "guess"))) =
      tokenConfig.respond emptyFs wrongRequest timeZero
        (.image (lit "camera_1") (lit "2026-10-01") (lit "a.jpg") (some (lit "guess"))) := by
  refine unauthenticated_reply_independent ⟨?_, ?_, ?_⟩ linkedFs emptyFs
  · intro token htoken
    obtain rfl := Option.some.inj htoken
    rfl
  · intro header hheader
    obtain rfl := Option.some.inj hheader
    exact not_basicMatches_wrong
  · intro camera date filename token hroute hne hconfigured
    obtain rfl := Option.some.inj hconfigured
    simp only [Route.image.injEq, Option.some.injEq] at hroute
    exact absurd hroute.2.2.2 (by decide)

end IntruderWatch.Proofs
