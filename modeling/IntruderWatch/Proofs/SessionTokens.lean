import IntruderWatch.Session

/-!
# Session tokens: round trip and soundness

A token is accepted for its whole life exactly when the username has no colon, the separator
of the format. Conversely an accepted token carries a signature that was made for exactly the
username and expiry it is accepted with.
-/

namespace IntruderWatch.Proofs
open Py ViewerEnv

/-! ### The pieces of a token -/

lemma colon_notMem_decimal (n : ℤ) : colon ∉ decimal n := by
  intro hc
  have hval : colon.val = 58 := by decide
  have hmem := mem_decimal hc
  omega

lemma isHexDigit_ascii {c : CodePoint} (h : isHexDigit c = true) : c.val < 128 := by
  simp only [isHexDigit, Bool.or_eq_true, Bool.and_eq_true, decide_eq_true_eq] at h
  omega

lemma colon_notMem_signature (env : ViewerEnv) (payload : List UInt8) :
    colon ∉ env.signature payload := by
  intro hc
  have hhex := env.hmac.hex _ _ _ hc
  exact absurd hhex (by decide)

lemma isAscii_iff {s : Str} : isAscii s = true ↔ ∀ c ∈ s, c.val < 128 := by
  simp [isAscii]

lemma signature_ascii (env : ViewerEnv) (payload : List UInt8) :
    isAscii (env.signature payload) = true :=
  isAscii_iff.mpr (fun c hc => isHexDigit_ascii (env.hmac.hex _ _ c hc))

lemma decimal_ascii (n : ℤ) : ∀ c ∈ decimal n, c.val < 128 := by
  intro c hc
  have hmem := mem_decimal hc
  omega

lemma encode_ascii {s : Str} (h : ∀ c ∈ s, c.val < 128) : ∃ b, encode s = .ok b :=
  encode_isOk (fun c hc => isSurrogate_of_ascii (h c hc))

/-- The expiry of a token. -/
def expiry (now : Timestamp) : ℤ :=
  now.toInt + sessionMaxAge

lemma abs_toInt_le (now : Timestamp) : |(now.toInt : ℚ)| ≤ |now.val| := by
  have hden : (0 : ℚ) < now.val.den := by exact_mod_cast now.val.den_pos
  have hval : (now.val.num : ℚ) = now.val * now.val.den := by
    rw [Rat.mul_den_eq_num]
  have hmul : (now.toInt.natAbs : ℚ) * now.val.den ≤ (now.val.num.natAbs : ℚ) := by
    have hnat : now.toInt.natAbs * now.val.den ≤ now.val.num.natAbs := by
      rw [Timestamp.toInt, Int.natAbs_tdiv, Int.natAbs_natCast]
      exact Nat.div_mul_le_self _ _
    exact_mod_cast hnat
  rw [← Int.cast_abs, Int.abs_eq_natAbs, Int.cast_natCast]
  have hnum : (now.val.num.natAbs : ℚ) = |now.val| * now.val.den := by
    rw [Nat.cast_natAbs, Int.cast_abs, hval, abs_mul, abs_of_pos hden]
  rw [hnum] at hmul
  exact le_of_mul_le_mul_right hmul hden

/-- An expiry is far below the limit of `str`. -/
lemma expiry_lt (now : Timestamp) : (expiry now).natAbs < strLimit := by
  have hle : |(now.toInt : ℚ)| < 2 ^ 1024 := (abs_toInt_le now).trans_lt now.2
  have hint : now.toInt.natAbs < 2 ^ 1024 := by
    rw [← Int.cast_abs, Int.abs_eq_natAbs, Int.cast_natCast] at hle
    exact_mod_cast hle
  have hlimit : 2 ^ 1024 + 604800 < strLimit := by
    decide +kernel
  have hexp : (expiry now).natAbs ≤ now.toInt.natAbs + 604800 := by
    unfold expiry sessionMaxAge
    omega
  omega

/-- The expiry as an integer with a text. -/
def expiryInteger (now : Timestamp) : Integer :=
  ⟨expiry now, expiry_lt now⟩

lemma intStr_integer (n : Integer) : intStr n.val = .ok (decimal n.val) := by
  rw [intStr, if_pos n.2]

/-- Truncation does not go below the floor. -/
lemma floor_le_toInt (now : Timestamp) : ⌊now.val⌋ ≤ now.toInt := by
  rw [Timestamp.toInt, Rat.floor_def', Int.tdiv_eq_ediv]
  split
  · omega
  · have hsign : Int.sign (now.val.den : ℤ) = 1 :=
      Int.sign_eq_one_of_pos (by exact_mod_cast now.val.den_pos)
    omega

/-! ### Issuing -/

/-- The text that is signed. -/
def tokenPayload (username : Str) (now : Timestamp) : Str :=
  username ++ colon :: decimal (expiry now)

/-- A created token decodes to the username, the expiry and their signature. -/
lemma createSessionToken_spec (env : ViewerEnv) {username token : Str} {now : Timestamp}
    (h : env.createSessionToken username now = .ok token) :
    ∃ payload, encode (tokenPayload username now) = .ok payload ∧
      decodeToken token =
        .ok (username ++ colon :: (decimal (expiry now) ++ colon :: env.signature payload)) := by
  have hstr : intStr (now.toInt + sessionMaxAge) = .ok (decimal (expiry now)) :=
    intStr_integer (expiryInteger now)
  obtain ⟨expires, hexpires, h⟩ := bind_eq_ok.mp h
  obtain rfl := Except.ok.inj (hstr.symm.trans hexpires)
  obtain ⟨payload, hp, h⟩ := bind_eq_ok.mp h
  obtain ⟨raw, hraw, h⟩ := bind_eq_ok.mp h
  obtain ⟨s, hdec, henc⟩ := decode_ascii (fun c hc => Base64.urlsafeEncode_ascii (s := raw) hc)
  obtain rfl : s = token := Except.ok.inj (hdec.symm.trans h)
  refine ⟨payload, hp, ?_⟩
  simp only [decodeToken, henc, Base64.urlsafeDecode_encode, bind, Except.bind, Option.elim]
  exact decode_encode hraw

lemma createSessionToken_isOk (env : ViewerEnv) {username : Str}
    (hascii : isAscii username = true) (now : Timestamp) :
    ∃ token, env.createSessionToken username now = .ok token := by
  have hstr : intStr (now.toInt + sessionMaxAge) = .ok (decimal (expiry now)) :=
    intStr_integer (expiryInteger now)
  have hcolon : colon.val < 128 := by decide
  have huser := isAscii_iff.mp hascii
  have hpayload : ∀ c ∈ username ++ colon :: decimal (expiry now), c.val < 128 := by
    intro c hc
    rw [List.mem_append, List.mem_cons] at hc
    rcases hc with hc | rfl | hc
    · exact huser c hc
    · exact hcolon
    · exact decimal_ascii _ c hc
  obtain ⟨payload, hp⟩ := encode_ascii hpayload
  have hraw : ∀ c ∈ username ++ colon :: (decimal (expiry now) ++ colon :: env.signature payload),
      c.val < 128 := by
    intro c hc
    rw [List.mem_append, List.mem_cons, List.mem_append, List.mem_cons] at hc
    rcases hc with hc | rfl | hc | rfl | hc
    · exact huser c hc
    · exact hcolon
    · exact decimal_ascii _ c hc
    · exact hcolon
    · exact isAscii_iff.mp (signature_ascii env payload) c hc
  obtain ⟨raw, hr⟩ := encode_ascii hraw
  obtain ⟨token, hdec, -⟩ := decode_ascii (fun c hc => Base64.urlsafeEncode_ascii (s := raw) hc)
  refine ⟨token, ?_⟩
  simp only [createSessionToken, hstr, hp, hr, bind, Except.bind]
  exact hdec

/-! ### Round trip -/

/-- Some credentials pass `api_login`. -/
def LoginAccepts (env : ViewerEnv) : Prop :=
  ∃ username password now user token, env.apiLogin username password now = .ok (.ok user token)

lemma compareDigest_eq_true {a b : Str} (h : compareDigest a b = .ok true) :
    isAscii a = true ∧ a = b := by
  unfold compareDigest at h
  split at h
  · next hboth =>
    rw [Bool.and_eq_true] at hboth
    exact ⟨hboth.1, by simpa using h⟩
  · cases h

lemma LoginAccepts.ascii {env : ViewerEnv} (h : LoginAccepts env) :
    isAscii env.viewerUsername = true := by
  obtain ⟨username, password, now, user, token, hlogin⟩ := h
  rw [apiLogin] at hlogin
  obtain ⟨isCorrectUsername, hu, hlogin⟩ := bind_eq_ok.mp hlogin
  obtain ⟨isCorrectPassword, -, hlogin⟩ := bind_eq_ok.mp hlogin
  cases isCorrectUsername with
  | false => cases hlogin
  | true =>
    obtain ⟨hascii, rfl⟩ := compareDigest_eq_true hu
    exact hascii

/-- The configured user gets a token that is accepted, as that user, until its expiry. -/
def RoundTrip (env : ViewerEnv) : Prop :=
  ∀ t : Timestamp, ∃ token, env.createSessionToken env.viewerUsername t = .ok token ∧
    ∀ t' : Timestamp, t.val ≤ t'.val → t'.val ≤ ((⌊t.val⌋ + sessionMaxAge : ℤ) : ℚ) →
      env.verifySessionToken token t' = some env.viewerUsername

lemma split_token (env : ViewerEnv) {username : Str} (hcolon : colon ∉ username) (e : ℤ)
    (payload : List UInt8) :
    split colon (username ++ colon :: (decimal e ++ colon :: env.signature payload)) =
      [username, decimal e, env.signature payload] := by
  rw [split_append hcolon, split_append (colon_notMem_decimal e),
    split_of_notMem (colon_notMem_signature env payload)]

lemma verify_created (env : ViewerEnv) {token : Str} {t t' : Timestamp}
    (hascii : isAscii env.viewerUsername = true) (hcolon : colon ∉ env.viewerUsername)
    (h : env.createSessionToken env.viewerUsername t = .ok token)
    (ht : t'.val ≤ ((expiry t : ℤ) : ℚ)) :
    env.verifySessionToken token t' = some env.viewerUsername := by
  obtain ⟨payload, hp, hdec⟩ := createSessionToken_spec env h
  have hsplit := split_token env hcolon (expiry t) payload
  have hparse : parseInt (decimal (expiry t)) = .ok (expiryInteger t) :=
    parseInt_decimal (expiryInteger t)
  have hlive : ¬ ((expiryInteger t).val : ℚ) < t'.val := not_lt.mpr ht
  have hsig : compareDigest (env.signature payload) (env.signature payload) = .ok true := by
    simp [compareDigest, signature_ascii]
  have huser : compareDigest env.viewerUsername env.viewerUsername = .ok true := by
    simp [compareDigest, hascii]
  have hcheck : env.checkSessionToken token t' = .ok (some env.viewerUsername) := by
    simp only [checkSessionToken, hdec, bind, Except.bind, hsplit, hparse, hlive, if_false,
      intStr_integer]
    have hp' : encode (env.viewerUsername ++ colon :: decimal (expiryInteger t).val) = .ok payload :=
      hp
    simp only [hp', hsig, huser, if_true]
    rfl
  rw [verifySessionToken, hcheck]

/-- A username with a colon gives a token of too many parts. -/
lemma verify_colon (env : ViewerEnv) {username token : Str} {t t' : Timestamp}
    (hcolon : colon ∈ username) (h : env.createSessionToken username t = .ok token) :
    env.verifySessionToken token t' = none := by
  obtain ⟨payload, -, hdec⟩ := createSessionToken_spec env h
  have hcount : 0 < username.count colon := List.count_pos_iff.mpr hcolon
  have hlen : 4 ≤ (split colon (username ++ colon ::
      (decimal (expiry t) ++ colon :: env.signature payload))).length := by
    rw [length_split, List.count_append, List.count_cons_self, List.count_append,
      List.count_cons_self]
    omega
  have hcheck : env.checkSessionToken token t' = .ok none := by
    simp only [checkSessionToken, hdec, bind, Except.bind]
    split
    · next u x sig hparts =>
      rw [hparts] at hlen
      simp at hlen
    · rfl
  rw [verifySessionToken, hcheck]

/-- For every username that `api_login` accepts, tokens round trip for their whole life if and
only if the username has no colon. -/
theorem roundTrip_iff_no_colon (env : ViewerEnv) (haccepts : LoginAccepts env) :
    RoundTrip env ↔ colon ∉ env.viewerUsername := by
  have hascii := haccepts.ascii
  constructor
  · intro htrip hcolon
    let t : Timestamp := ⟨0, by norm_num⟩
    obtain ⟨token, hcreate, hverify⟩ := htrip t
    have hmax : t.val ≤ ((⌊t.val⌋ + sessionMaxAge : ℤ) : ℚ) := by
      simp [t, sessionMaxAge]
    have hsome := hverify t le_rfl hmax
    rw [verify_colon env hcolon hcreate] at hsome
    cases hsome
  · intro hcolon t
    obtain ⟨token, hcreate⟩ := createSessionToken_isOk env hascii t
    refine ⟨token, hcreate, ?_⟩
    intro t' _ hle
    apply verify_created env hascii hcolon hcreate
    have hfloor : ((⌊t.val⌋ + sessionMaxAge : ℤ) : ℚ) ≤ ((expiry t : ℤ) : ℚ) := by
      have hint := floor_le_toInt t
      unfold expiry
      exact_mod_cast (by omega : ⌊t.val⌋ + sessionMaxAge ≤ t.toInt + sessionMaxAge)
    exact hle.trans hfloor

/-- Two hexadecimal digits for each byte. -/
def hexText (digest : List ℕ) : Str :=
  digest.flatMap (fun b => [hexChar (b / 16 % 16), hexChar (b % 16)])
where
  hexChar (v : ℕ) : CodePoint := codePoint (if v < 10 then 48 + v else 87 + v)

lemma hexText_hex {digest : List ℕ} {c : CodePoint} (hc : c ∈ hexText digest) :
    isHexDigit c = true := by
  have hall : ∀ v : Fin 16, isHexDigit (hexText.hexChar v.val) = true := by decide
  obtain ⟨b, -, hb⟩ := List.mem_flatMap.mp hc
  rw [List.mem_cons, List.mem_singleton] at hb
  rcases hb with rfl | rfl
  · exact hall ⟨b / 16 % 16, Nat.mod_lt _ (by norm_num)⟩
  · exact hall ⟨b % 16, Nat.mod_lt _ (by norm_num)⟩

/-- The digest of `admin:604800` under the key `secret`. -/
def sampleDigest : List ℕ :=
  [0x42, 0x7a, 0x26, 0x56, 0x60, 0x3e, 0x7f, 0x88, 0xf8, 0x2b, 0x8d, 0xcb, 0xa4, 0xbc,
    0xf9, 0x24, 0xd1, 0xfe, 0x96, 0xb9, 0x71, 0x46, 0x29, 0x7a, 0x6e, 0xb5, 0x69, 0xf1,
    0xbc, 0x3e, 0x7f, 0x5b]

/-- Agrees with the real function on that input; other inputs get zeros. -/
def sampleHmac : Hmac where
  hexdigest := fun secret payload =>
    if secret = [115, 101, 99, 114, 101, 116] ∧
        payload = [97, 100, 109, 105, 110, 58, 54, 48, 52, 56, 48, 48] then
      hexText sampleDigest
    else hexText (List.replicate 32 0)
  hex := by
    intro secret payload c hc
    split at hc
    · exact hexText_hex hc
    · exact hexText_hex hc

def adminEnv : ViewerEnv where
  hmac := sampleHmac
  viewerUsername := lit "admin"
  viewerPassword := lit "password123"
  sessionSecretBytes := [115, 101, 99, 114, 101, 116]

def timeZero : Timestamp := ⟨0, by norm_num⟩

/-- Presenting the configured credentials logs in. -/
lemma loginAccepts_of_ascii {env : ViewerEnv} (huser : isAscii env.viewerUsername = true)
    (hpass : isAscii env.viewerPassword = true) : LoginAccepts env := by
  obtain ⟨token, htoken⟩ := createSessionToken_isOk env huser timeZero
  refine ⟨env.viewerUsername, env.viewerPassword, timeZero, env.viewerUsername, token, ?_⟩
  simp [apiLogin, compareDigest, huser, hpass, htoken, bind, Except.bind, pure, Except.pure]

theorem roundTrip_iff_no_colon_admin : RoundTrip adminEnv :=
  (roundTrip_iff_no_colon adminEnv (loginAccepts_of_ascii (by decide) (by decide))).mpr (by decide)

def colonEnv : ViewerEnv :=
  { adminEnv with viewerUsername := lit "site:operator" }

/-- A username with a colon logs in, and the token it gets is refused at once. -/
theorem colon_username_locked_out :
    LoginAccepts colonEnv ∧ ¬ RoundTrip colonEnv ∧
      ∃ token, colonEnv.createSessionToken (lit "site:operator") timeZero = .ok token ∧
        colonEnv.verifySessionToken token timeZero = none := by
  have hcolon : colon ∈ lit "site:operator" := by decide
  obtain ⟨token, htoken⟩ := createSessionToken_isOk colonEnv
    (show isAscii (lit "site:operator") = true by decide) timeZero
  refine ⟨loginAccepts_of_ascii (by decide) (by decide), ?_, token, htoken, verify_colon _ hcolon htoken⟩
  intro htrip
  obtain ⟨token', htoken', hverify⟩ := htrip timeZero
  have hsome := hverify timeZero le_rfl (by simp [timeZero, sessionMaxAge])
  rw [verify_colon colonEnv hcolon htoken'] at hsome
  cases hsome

/-! ### Soundness -/

/-- A call of `create_session_token`. -/
structure Issue where
  username : Str
  now : Timestamp

/-- A signature in the signature field of the token matches only payloads that were signed for
an issued token. -/
def Unforgeable (env : ViewerEnv) (issued : List Issue) (token : Str) : Prop :=
  ∀ raw username expires payload, decodeToken token = .ok raw →
    split colon raw = [username, expires, env.signature payload] →
    ∃ issue ∈ issued, encode (tokenPayload issue.username issue.now) = .ok payload

/-- What an accepted token has passed. -/
lemma verifySessionToken_spec (env : ViewerEnv) {token u : Str} {now : Timestamp}
    (h : env.verifySessionToken token now = some u) :
    ∃ raw expires payload, ∃ e : Integer, decodeToken token = .ok raw ∧
      split colon raw = [u, expires, env.signature payload] ∧
      encode (u ++ colon :: decimal e.val) = .ok payload ∧ now.val ≤ (e.val : ℚ) ∧
      u = env.viewerUsername := by
  have hcheck : env.checkSessionToken token now = .ok (some u) := by
    unfold verifySessionToken at h
    cases hc : env.checkSessionToken token now with
    | error e => simp [hc] at h
    | ok user =>
      rw [hc] at h
      rw [← h]
  rw [checkSessionToken, bind_eq_ok] at hcheck
  obtain ⟨raw, hraw, hcheck⟩ := hcheck
  split at hcheck
  · next username expires sig hparts =>
    rw [bind_eq_ok] at hcheck
    obtain ⟨e, he, hcheck⟩ := hcheck
    split at hcheck
    · cases hcheck
    · next hlive =>
      rw [intStr_integer] at hcheck
      simp only [bind_eq_ok, Except.ok.injEq, exists_eq_left'] at hcheck
      obtain ⟨payload, hp, sigOk, hsig, hcheck⟩ := hcheck
      cases sigOk with
      | false => cases hcheck
      | true =>
        simp only [if_true, bind_eq_ok] at hcheck
        obtain ⟨userOk, huser, hcheck⟩ := hcheck
        cases userOk with
        | false => cases hcheck
        | true =>
          obtain rfl : username = u := by
            cases hcheck
            rfl
          obtain ⟨-, rfl⟩ := compareDigest_eq_true hsig
          exact ⟨raw, expires, payload, e, hraw, hparts, hp, not_lt.mp hlive,
            (compareDigest_eq_true huser).2⟩
  · cases hcheck

/-- Two signed texts are equal only for equal username and expiry. -/
lemma signedText_inj {u u' : Str} {e e' : Integer} (hu : colon ∉ u)
    (h : u ++ colon :: decimal e.val = u' ++ colon :: decimal e'.val) : u = u' ∧ e = e' := by
  obtain ⟨h1, -, h3⟩ :=
    (List.append_cons_inj_of_notMem hu (colon_notMem_decimal e.val)).mp h
  exact ⟨h1, decimal_inj h3⟩

/-- Whatever the token, it is accepted only as the configured user, and only if a token for that
user with an expiry that has not passed was issued before. -/
theorem accepted_token_was_issued (env : ViewerEnv) (issued : List Issue) (token u : Str)
    (now : Timestamp) (hforge : Unforgeable env issued token)
    (h : env.verifySessionToken token now = some u) :
    u = env.viewerUsername ∧
      ∃ issue ∈ issued, issue.username = u ∧ now.val ≤ ((expiry issue.now : ℤ) : ℚ) := by
  obtain ⟨raw, expires, payload, e, hraw, hparts, hp, hlive, huser⟩ := verifySessionToken_spec env h
  obtain ⟨issue, hissue, hsigned⟩ := hforge raw u expires payload hraw hparts
  have hcolon : colon ∉ u := notMem_of_mem_split (by rw [hparts]; simp)
  have htext : u ++ colon :: decimal e.val =
      issue.username ++ colon :: decimal (expiryInteger issue.now).val :=
    encode_inj hp hsigned
  obtain ⟨hname, hexp⟩ := signedText_inj hcolon htext
  refine ⟨huser, issue, hissue, hname.symm, ?_⟩
  rw [hexp] at hlive
  exact hlive

/-- A genuine token: its signature matches no payload but the one that was signed. -/
lemma adminEnv_unforgeable {token : Str}
    (h : adminEnv.createSessionToken (lit "admin") timeZero = .ok token) :
    Unforgeable adminEnv [⟨lit "admin", timeZero⟩] token := by
  obtain ⟨signed, hsigned, hdec⟩ := createSessionToken_spec adminEnv h
  have hexpiry : decimal (expiry timeZero) = lit "604800" := by decide +kernel
  have hbytes : encode (tokenPayload (lit "admin") timeZero) =
      .ok [97, 100, 109, 105, 110, 58, 54, 48, 52, 56, 48, 48] := by
    rw [tokenPayload, hexpiry]
    rfl
  obtain rfl := Except.ok.inj (hsigned.symm.trans hbytes)
  intro raw username expires payload hraw hparts
  obtain rfl := Except.ok.inj (hdec.symm.trans hraw)
  rw [split_token adminEnv (by decide)] at hparts
  obtain ⟨-, -, hsig⟩ : lit "admin" = username ∧ decimal (expiry timeZero) = expires ∧
      adminEnv.signature _ = adminEnv.signature payload := by simpa using hparts
  refine ⟨⟨lit "admin", timeZero⟩, by simp, ?_⟩
  by_cases hpayload : payload = [97, 100, 109, 105, 110, 58, 54, 48, 52, 56, 48, 48]
  · rw [hpayload]
    exact hbytes
  · have hzero : adminEnv.signature payload = hexText (List.replicate 32 0) := by
      simp [ViewerEnv.signature, adminEnv, sampleHmac, hpayload]
    rw [hzero] at hsig
    exact absurd hsig (by decide)

theorem accepted_token_was_issued_admin :
    ∃ token, adminEnv.createSessionToken (lit "admin") timeZero = .ok token ∧
      adminEnv.verifySessionToken token timeZero = some (lit "admin") ∧
      ∃ issue ∈ [(⟨lit "admin", timeZero⟩ : Issue)], issue.username = lit "admin" ∧
        timeZero.val ≤ ((expiry issue.now : ℤ) : ℚ) := by
  obtain ⟨token, htoken⟩ := createSessionToken_isOk adminEnv
    (show isAscii (lit "admin") = true by decide) timeZero
  have hlive : timeZero.val ≤ ((expiry timeZero : ℤ) : ℚ) := by
    decide +kernel
  have haccept := verify_created adminEnv (by decide) (by decide) htoken hlive
  exact ⟨token, htoken, haccept, (accepted_token_was_issued adminEnv [⟨lit "admin", timeZero⟩] token
    (lit "admin") timeZero (adminEnv_unforgeable htoken) haccept).2⟩

end IntruderWatch.Proofs
