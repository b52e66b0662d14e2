import IntruderWatch.Proofs.SessionTokens
import IntruderWatch.Viewer

/-!
# The two login paths

`/api/login` and the Basic header decide the same credentials. They agree as long as no string has a
character beyond ASCII: there `compare_digest` raises, and only one of the two catches it.
-/

namespace IntruderWatch.Proofs
open Py ViewerEnv

/-- The header with which a client presents a username and a password. -/
def basicHeader (username password : Str) : Except Exn Str := do
  let bytes ← encode (username ++ colon :: password)
  let text ← decode (Base64.encode bytes)
  .ok (lit "Basic " ++ text)

section Agreement

variable (env : ViewerEnv) (username password : Str)

/-- None of the four strings has a character beyond ASCII. -/
structure AllAscii : Prop where
  username : isAscii username = true
  viewerUsername : isAscii env.viewerUsername = true
  password : isAscii password = true
  viewerPassword : isAscii env.viewerPassword = true

def IsConfigured : Prop := username = env.viewerUsername ∧ password = env.viewerPassword

/-- `/api/login` answers by the credentials, and the Basic header is accepted if and only if
`/api/login` answers 200. -/
structure LoginsAgree (accepts : Option Str → Bool) : Prop where
  login : ∀ now, loginStatus (env.apiLogin username password now) = 200 ∧
      IsConfigured env username password ∨
    loginStatus (env.apiLogin username password now) = 401 ∧ ¬ IsConfigured env username password
  basic : colon ∉ username → ∀ header, basicHeader username password = .ok header →
    ∀ request now, request.authorization = some header →
      truthyText (env.getSessionUser request now) = false →
        (accepts (env.getAuthenticatedUser request now) = true ↔
          loginStatus (env.apiLogin username password now) = 200)

variable {env username password}

/-! ### `/api/login` -/

lemma compareDigest_raises {a b : Str} (h : ¬ (isAscii a = true ∧ isAscii b = true)) :
    compareDigest a b = .error .typeError := by
  rw [compareDigest, if_neg (by simpa using h)]

lemma compareDigest_ascii {a b : Str} (ha : isAscii a = true) (hb : isAscii b = true) :
    compareDigest a b = .ok (decide (a = b)) := by
  rw [compareDigest, if_pos (by simp [ha, hb])]

lemma allAscii_iff : AllAscii env username password ↔
    (isAscii username = true ∧ isAscii env.viewerUsername = true) ∧
      isAscii password = true ∧ isAscii env.viewerPassword = true := by
  constructor
  · intro h
    exact ⟨⟨h.username, h.viewerUsername⟩, h.password, h.viewerPassword⟩
  · rintro ⟨⟨h₁, h₂⟩, h₃, h₄⟩
    exact ⟨h₁, h₂, h₃, h₄⟩

/-- Both comparisons are made in any case, and either may raise. -/
lemma apiLogin_raises (h : ¬ AllAscii env username password) (now : Timestamp) :
    loginStatus (env.apiLogin username password now) = 500 := by
  rw [allAscii_iff, not_and_or] at h
  unfold ViewerEnv.apiLogin
  by_cases huser : isAscii username = true ∧ isAscii env.viewerUsername = true
  · have hpassword := h.resolve_left (fun hn => hn huser)
    rw [compareDigest_ascii huser.1 huser.2, compareDigest_raises hpassword]
    rfl
  · rw [compareDigest_raises huser]
    rfl

lemma apiLogin_ascii (h : AllAscii env username password) (now : Timestamp) :
    loginStatus (env.apiLogin username password now) =
      if username = env.viewerUsername ∧ password = env.viewerPassword then 200 else 401 := by
  unfold ViewerEnv.apiLogin
  rw [compareDigest_ascii h.username h.viewerUsername, compareDigest_ascii h.password h.viewerPassword]
  obtain ⟨token, htoken⟩ := createSessionToken_isOk env h.viewerUsername now
  by_cases huser : username = env.viewerUsername
  · by_cases hpassword : password = env.viewerPassword
    · simp [huser, hpassword, htoken, bind, Except.bind, pure, Except.pure, loginStatus]
    · simp [hpassword, bind, Except.bind, pure, Except.pure, loginStatus]
  · simp [huser, bind, Except.bind, pure, Except.pure, loginStatus]

/-! ### The Basic header -/

lemma base64_noSpace {b : List UInt8} {c : CodePoint}
    (hc : c ∈ (Base64.encode b).map (fun d => codePoint d.toNat)) : isWhitespace c = false := by
  obtain ⟨d, hd, rfl⟩ := List.mem_map.mp hc
  have hrange := Base64.encode_range hd
  have hval : (codePoint d.toNat).val = d.toNat := codePoint_val (by omega)
  have hwide : d.toNat ∉ wideSpaces := by
    intro hmem
    have hall : ∀ n ∈ wideSpaces, 122 < n := by decide
    have hlt := hall _ hmem
    omega
  simp only [isWhitespace, hval, hwide, decide_false, Bool.or_false, Bool.or_eq_false_iff,
    Bool.and_eq_false_iff, decide_eq_false_iff_not]
  omega

/-- The two comparisons for the header; an exception of either is caught. -/
def comparesEqual (env : ViewerEnv) (username password : Str) : Except Exn (Option Str) := do
  if ← compareDigest username env.viewerUsername then
    if ← compareDigest password env.viewerPassword then return some username
  return none

/-- The header is read back, up to the two comparisons. -/
lemma checkBasicAuth_header {text : Str} {bytes : List UInt8} (hcolon : colon ∉ username)
    (hbytes : encode (username ++ colon :: password) = .ok bytes)
    (htext : text = (Base64.encode bytes).map (fun c => codePoint c.toNat)) :
    env.checkBasicAuth (lit "Basic " ++ text) = comparesEqual env username password := by
  subst htext
  have hfirst : splitFirst space (lit "Basic " ++ (Base64.encode bytes).map (fun c => codePoint c.toNat)) =
      some (lit "Basic", (Base64.encode bytes).map (fun c => codePoint c.toNat)) :=
    splitFirst_append (s := lit "Basic") (by decide) _
  rw [ViewerEnv.checkBasicAuth, hfirst]
  change (b64decode (.str (strip ((Base64.encode bytes).map (fun c => codePoint c.toNat)))) >>= _) = _
  rw [strip_eq_self (fun c hc => base64_noSpace hc), b64decode_encode]
  change (decode bytes >>= _) = _
  rw [decode_encode hbytes]
  change ((splitFirst colon (username ++ colon :: password)).elim
    (Except.error Exn.valueError) Except.ok >>= _) = _
  rw [splitFirst_append hcolon]
  rfl

lemma comparesEqual_some {user : Str} : comparesEqual env username password = .ok (some user) ↔
    AllAscii env username password ∧ IsConfigured env username password ∧ user = username := by
  rw [allAscii_iff, IsConfigured, comparesEqual]
  by_cases huser : isAscii username = true ∧ isAscii env.viewerUsername = true
  · rw [compareDigest_ascii huser.1 huser.2]
    by_cases hpassword : isAscii password = true ∧ isAscii env.viewerPassword = true
    · rw [compareDigest_ascii hpassword.1 hpassword.2]
      by_cases hname : username = env.viewerUsername
      · by_cases hword : password = env.viewerPassword
        · simp [huser.2, hpassword.2, hname, hword, bind, Except.bind, pure, Except.pure, eq_comm]
        · simp [hname, hword, bind, Except.bind, pure, Except.pure]
      · simp [hname, bind, Except.bind, pure, Except.pure]
    · rw [compareDigest_raises hpassword]
      by_cases hname : username = env.viewerUsername
      · simp [hname, hpassword, bind, Except.bind]
      · simp [hname, hpassword, bind, Except.bind, pure, Except.pure]
  · rw [compareDigest_raises huser]
    simp [huser, bind, Except.bind]

/-- The header of a pair logs in exactly as the pair does. -/
lemma basicUser_header {header user : Str} (hcolon : colon ∉ username)
    (hheader : basicHeader username password = .ok header) : env.basicUser header = some user ↔
      AllAscii env username password ∧ IsConfigured env username password ∧ user = username := by
  obtain ⟨bytes, hbytes, hdecode⟩ := bind_eq_ok.mp hheader
  obtain ⟨text, htext, hconcat⟩ := bind_eq_ok.mp hdecode
  obtain rfl := Except.ok.inj hconcat
  have hascii : ∀ c ∈ Base64.encode bytes, c.toNat < 128 := by
    intro c hc
    have hrange := Base64.encode_range hc
    omega
  rw [decode_ascii_eq hascii] at htext
  have hprefix : (lit "Basic ").isPrefixOf (lit "Basic " ++ text) = true :=
    List.isPrefixOf_iff_prefix.mpr (List.prefix_append _ _)
  rw [ViewerEnv.basicUser, if_pos hprefix,
    checkBasicAuth_header hcolon hbytes (Except.ok.inj htext).symm, ← comparesEqual_some]
  cases comparesEqual env username password with
  | error e => simp
  | ok found => simp

/-- Without a session the header decides. -/
lemma getAuthenticatedUser_header {request : Request} {now : Timestamp} {header : Str}
    (hauth : request.authorization = some header)
    (hsession : truthyText (env.getSessionUser request now) = false) :
    env.getAuthenticatedUser request now = env.basicUser header := by
  rw [ViewerEnv.getAuthenticatedUser, hsession, hauth]
  rfl

/-! ### Agreement -/

lemma login_answers (h : AllAscii env username password) (now : Timestamp) :
    loginStatus (env.apiLogin username password now) = 200 ∧ IsConfigured env username password ∨
      loginStatus (env.apiLogin username password now) = 401 ∧
        ¬ IsConfigured env username password := by
  rw [apiLogin_ascii h, IsConfigured]
  split_ifs with hconfigured
  · exact Or.inl ⟨rfl, hconfigured⟩
  · exact Or.inr ⟨rfl, hconfigured⟩

lemma login_iff (h : AllAscii env username password) (now : Timestamp) :
    loginStatus (env.apiLogin username password now) = 200 ↔ IsConfigured env username password := by
  rcases login_answers h now with ⟨hstatus, hconfigured⟩ | ⟨hstatus, hconfigured⟩
  · exact iff_of_true hstatus hconfigured
  · exact iff_of_false (by rw [hstatus]; norm_num) hconfigured

lemma LoginsAgree.ascii {accepts : Option Str → Bool}
    (h : LoginsAgree env username password accepts) : AllAscii env username password := by
  by_contra hascii
  have hraises := apiLogin_raises hascii timeZero
  rcases h.login timeZero with ⟨hstatus, -⟩ | ⟨hstatus, -⟩
  · rw [hraises] at hstatus
    norm_num at hstatus
  · rw [hraises] at hstatus
    norm_num at hstatus

lemma basicHeader_isOk (h : AllAscii env username password) :
    ∃ header, basicHeader username password = .ok header := by
  have hall : ∀ c ∈ username ++ colon :: password, c.val < 128 := by
    intro c hc
    rw [List.mem_append, List.mem_cons] at hc
    rcases hc with hc | rfl | hc
    · exact isAscii_iff.mp h.username c hc
    · decide
    · exact isAscii_iff.mp h.password c hc
  obtain ⟨bytes, hbytes⟩ := encode_ascii hall
  have hascii : ∀ c ∈ Base64.encode bytes, c.toNat < 128 := by
    intro c hc
    have hrange := Base64.encode_range hc
    omega
  refine ⟨lit "Basic " ++ (Base64.encode bytes).map (fun c => codePoint c.toNat), ?_⟩
  rw [basicHeader, hbytes]
  change (decode (Base64.encode bytes) >>= _) = _
  rw [decode_ascii_eq hascii]
  rfl

/-- What the header is accepted for, when its user is accepted in the sense of `accepts`. -/
lemma header_accepted_iff {accepts : Option Str → Bool} (hnone : accepts none = false)
    {request : Request} {now : Timestamp} {header : Str} (hcolon : colon ∉ username)
    (hheader : basicHeader username password = .ok header) (hauth : request.authorization = some header)
    (hsession : truthyText (env.getSessionUser request now) = false) :
    accepts (env.getAuthenticatedUser request now) = true ↔
      AllAscii env username password ∧ IsConfigured env username password ∧
        accepts (some username) = true := by
  rw [getAuthenticatedUser_header hauth hsession]
  cases huser : env.basicUser header with
  | none =>
    rw [hnone]
    refine iff_of_false Bool.false_ne_true ?_
    rintro ⟨hascii, hconfigured, -⟩
    rw [(basicUser_header hcolon hheader).mpr ⟨hascii, hconfigured, rfl⟩] at huser
    cases huser
  | some user =>
    obtain ⟨hascii, hconfigured, rfl⟩ := (basicUser_header hcolon hheader).mp huser
    simp [hascii, hconfigured]

/-- In either sense of being accepted, as a user or as the non-empty user that the routes ask for:
the logins agree if and only if all four strings are ASCII and, in the second sense, the accepted
username is not empty. -/
theorem logins_agree_iff (env : ViewerEnv) (username password : Str) :
    (LoginsAgree env username password Option.isSome ↔ AllAscii env username password) ∧
    (LoginsAgree env username password truthyText ↔ AllAscii env username password ∧
      ¬ (username = [] ∧ IsConfigured env username password)) := by
  refine ⟨⟨LoginsAgree.ascii, ?_⟩, ?_, ?_⟩
  · intro hascii
    refine ⟨login_answers hascii, ?_⟩
    intro hcolon header hheader request now hauth hsession
    rw [header_accepted_iff rfl hcolon hheader hauth hsession, login_iff hascii]
    exact ⟨fun h => h.2.1, fun h => ⟨hascii, h, rfl⟩⟩
  · intro hagree
    refine ⟨hagree.ascii, ?_⟩
    rintro ⟨rfl, hconfigured⟩
    -- a header for the empty username: the user that it gives is no user for the routes
    obtain ⟨header, hheader⟩ := basicHeader_isOk hagree.ascii
    have hiff := hagree.basic List.not_mem_nil header hheader ⟨none, some header⟩ timeZero rfl rfl
    rw [header_accepted_iff rfl List.not_mem_nil hheader rfl rfl, login_iff hagree.ascii] at hiff
    exact Bool.false_ne_true (hiff.mpr hconfigured).2.2
  · rintro ⟨hascii, hempty⟩
    refine ⟨login_answers hascii, ?_⟩
    intro hcolon header hheader request now hauth hsession
    rw [header_accepted_iff rfl hcolon hheader hauth hsession, login_iff hascii]
    refine ⟨fun h => h.2.1, fun h => ⟨hascii, h, ?_⟩⟩
    exact decide_eq_true (fun hnil => hempty ⟨hnil, h⟩)

end Agreement

/-- A password with an accent is a server error for `/api/login` and a wrong one for the header. -/
theorem accented_password_raises :
    ¬ LoginsAgree adminEnv (lit "admin") (lit "pässword") Option.isSome ∧
      ¬ LoginsAgree adminEnv (lit "admin") (lit "pässword") truthyText ∧
      loginStatus (adminEnv.apiLogin (lit "admin") (lit "pässword") timeZero) = 500 := by
  have hpassword : isAscii (lit "pässword") = false := by decide
  have hascii : ¬ AllAscii adminEnv (lit "admin") (lit "pässword") := by
    intro h
    rw [h.password] at hpassword
    cases hpassword
  exact ⟨fun h => hascii h.ascii, fun h => hascii h.ascii, apiLogin_raises hascii timeZero⟩

end IntruderWatch.Proofs
