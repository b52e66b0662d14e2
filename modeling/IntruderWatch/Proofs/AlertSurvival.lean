import IntruderWatch.Proofs.AlertCallback

/-!
# Which messages the alert consumer survives

The callback returns and acknowledges its message once exactly if the body and the stamps are
safe. A body is safe if its JSON does not nest too deep and is a dictionary, unless it fails to
decode or to parse, and if its fields convert, up to the failures that the `except` clause names.
-/

namespace IntruderWatch.Proofs
open Py Interaction

/-- The number of acknowledgements. -/
def acks (t : AlertTrace) : ℕ :=
  t.countP (fun call => match call.1 with | .basicAck => true | _ => false)

/-- Both conversions of the `try` statement succeed. -/
def Converts (data : List (Str × Json)) : Prop :=
  (∃ n, readCount data = .ok n) ∧ ∃ x, readConfidence data = .ok x

structure SafeData (env : AlertEnv) (data : List (Str × Json)) : Prop where
  count : ∀ neg, getField (lit "human_count") data ≠ some (.float (.inf neg))
  confidence : ∀ n, getField (lit "max_confidence") data = some (.int n) →
    (∃ count, readCount data = .ok count) → FitsFloat n
  camera : Converts data → ∃ key, (readCamera data).toKey = .ok key
  timestamp : Converts data → (readTimestamp data).depth ≤ env.reprLimit

def SafeBody (env : AlertEnv) (body : List UInt8) : Prop :=
  ∀ text, decode body = .ok text →
    loads env.loadsLimit text ≠ .error .recursionError ∧
    ∀ value, loads env.loadsLimit text = .ok value → ∃ data, value = .obj data ∧ SafeData env data

/-- The seconds that remain of a cooldown are computed only for a suppressed alert. -/
structure SafeCooldowns (env : AlertEnv) (s : AlertState) (body : List UInt8) (now : WallTime) :
    Prop where
  ntfy : ∀ alert key, env.parseAlert body = .ok alert → alert.cameraId.toKey = .ok key →
    now.cooledDown env.ntfyCooldown (s.lastCamNtfy key) = true ∨ FitsFloat env.ntfyCooldown
  call : env.enableCallAlerts = true →
    now.cooledDown env.alertCooldown s.lastCallTime = true ∨ FitsFloat env.alertCooldown

/-! ### The two cooldowns -/

section Cooldowns

variable {env : AlertEnv} {alert : Alert} {now : WallTime} {s s' : AlertState} {t : AlertTrace}
  {r : Except Exn Unit}

lemma acks_ntfy (h : NtfyRuns env alert now s t r s') : acks t = 0 := by
  cases h <;> rfl

lemma acks_call (h : CallRuns env alert now s t r s') : acks t = 0 := by
  cases h <;> rfl

lemma lastCallTime_ntfy (h : NtfyRuns env alert now s t r s') :
    s'.lastCallTime = s.lastCallTime := by
  cases h <;> rfl

lemma ntfy_isOk_iff : (∃ t s', NtfyRuns env alert now s t (.ok ()) s') ↔
    ∃ key, alert.cameraId.toKey = .ok key ∧
      (now.cooledDown env.ntfyCooldown (s.lastCamNtfy key) = true ∨ FitsFloat env.ntfyCooldown) := by
  constructor
  · rintro ⟨t, s', h⟩
    cases h with
    | dispatched hkey hcool => exact ⟨_, hkey, Or.inl hcool⟩
    | suppressed hkey _ hrem => exact ⟨_, hkey, Or.inr (remaining_isOk_iff.mp ⟨_, hrem⟩)⟩
  · rintro ⟨key, hkey, h⟩
    by_cases hcool : now.cooledDown env.ntfyCooldown (s.lastCamNtfy key) = true
    · exact ⟨_, _, .dispatched hkey hcool⟩
    · obtain ⟨n, hn⟩ := remaining_isOk (h.resolve_left hcool) now (s.lastCamNtfy key)
      exact ⟨_, _, .suppressed hkey (Bool.not_eq_true _ ▸ hcool) hn⟩

lemma call_isOk_iff : (∃ t s', CallRuns env alert now s t (.ok ()) s') ↔
    (env.enableCallAlerts = true →
      now.cooledDown env.alertCooldown s.lastCallTime = true ∨ FitsFloat env.alertCooldown) := by
  constructor
  · rintro ⟨t, s', h⟩ hen
    cases h with
    | disabled hen' =>
      rw [hen'] at hen
      exact absurd hen Bool.false_ne_true
    | dispatched _ hcool => exact Or.inl hcool
    | suppressed _ _ hrem => exact Or.inr (remaining_isOk_iff.mp ⟨_, hrem⟩)
  · intro h
    by_cases hen : env.enableCallAlerts = true
    · by_cases hcool : now.cooledDown env.alertCooldown s.lastCallTime = true
      · exact ⟨_, _, .dispatched hen hcool⟩
      · obtain ⟨n, hn⟩ := remaining_isOk ((h hen).resolve_left hcool) now s.lastCallTime
        exact ⟨_, _, .suppressed hen (Bool.not_eq_true _ ▸ hcool) hn⟩
    · exact ⟨_, _, .disabled (Bool.not_eq_true _ ▸ hen)⟩

end Cooldowns

/-! ### Reading the body -/

lemma malformed_valueError {e : Exn} (h : e = .valueError) : malformed e = true := by
  rw [h]
  rfl

/-- The only failure of `int(x)` that the `except` clause misses is an infinity. -/
lemma toInteger_error {v : Json} {e : Exn} (h : v.toInteger = .error e)
    (hinf : ∀ neg, v ≠ .float (.inf neg)) : malformed e = true := by
  cases v with
  | float x =>
    cases x with
    | finite neg a => cases h
    | inf neg => exact absurd rfl (hinf neg)
    | nan => exact malformed_valueError (Except.error.inj h).symm
  | str s => exact malformed_valueError (parseInt_error h)
  | int n => cases h
  | bool b => cases h
  | null | arr | obj =>
    obtain rfl := Except.error.inj h
    rfl

/-- The only failure of `float(x)` that the `except` clause misses is an integer out of range. -/
lemma toFloat_error {v : Json} {e : Exn} (h : v.toFloat = .error e)
    (hint : ∀ n, v = .int n → FitsFloat n) : malformed e = true := by
  cases v with
  | bool b =>
    have hfits : FitsFloat (boolInteger b) := fitsFloat_small b.toNat _
    obtain ⟨x, hx⟩ := Binary64.ofInteger_isOk hfits
    rw [Json.toFloat, hx] at h
    cases h
  | int n =>
    obtain ⟨x, hx⟩ := Binary64.ofInteger_isOk (hint n rfl)
    rw [Json.toFloat, hx] at h
    cases h
  | float x => cases h
  | str s => exact malformed_valueError (parseFloat_error h)
  | null | arr | obj =>
    obtain rfl := Except.error.inj h
    rfl

section Fields

variable {env : AlertEnv} {body : List UInt8} {text : Str} {data : List (Str × Json)}
  {count : Integer} {confidence : Binary64} {e : Exn}

lemma readCount_inf {neg : Bool}
    (h : getField (lit "human_count") data = some (.float (.inf neg))) :
    readCount data = .error .overflowError := by
  unfold readCount
  rw [h]
  rfl

lemma readCount_error_iff (h : readCount data = .error e) : malformed e = true ↔
    ∀ neg, getField (lit "human_count") data ≠ some (.float (.inf neg)) := by
  constructor
  · intro he neg hneg
    obtain rfl := Except.error.inj (h.symm.trans (readCount_inf hneg))
    cases he
  · intro hinf
    unfold readCount at h
    split at h
    · cases h
    · cases h
    · next v _ hv =>
      apply toInteger_error h
      rintro neg rfl
      exact hinf neg hv

lemma readConfidence_overflow {n : Integer}
    (h : getField (lit "max_confidence") data = some (.int n)) (hn : ¬ FitsFloat n) :
    readConfidence data = .error .overflowError := by
  unfold readConfidence
  rw [h]
  exact Binary64.ofInteger_overflow (not_lt.mp hn)

lemma readConfidence_error_iff (h : readConfidence data = .error e) : malformed e = true ↔
    ∀ n, getField (lit "max_confidence") data = some (.int n) → FitsFloat n := by
  constructor
  · intro he n hn
    by_contra hfits
    obtain rfl := Except.error.inj (h.symm.trans (readConfidence_overflow hn hfits))
    cases he
  · intro hint
    unfold readConfidence at h
    split at h
    · cases h
    · cases h
    · next v _ hv =>
      apply toFloat_error h
      rintro n rfl
      exact hint n hv

lemma fits_of_readConfidence (h : readConfidence data = .ok confidence) {n : Integer}
    (hn : getField (lit "max_confidence") data = some (.int n)) : FitsFloat n := by
  by_contra hfits
  rw [readConfidence_overflow hn hfits] at h
  cases h

/-! The three ways through the fields: the count fails, the confidence fails, both convert. -/

lemma safeData_of_count_error (h : readCount data = .error e) :
    SafeData env data ↔ malformed e = true := by
  have hnone : ¬ ∃ n, readCount data = .ok n := by
    rintro ⟨n, hn⟩
    cases h.symm.trans hn
  rw [readCount_error_iff h]
  constructor
  · intro hsafe
    exact hsafe.count
  · intro hinf
    exact ⟨hinf, fun _ _ hc => absurd hc hnone, fun hc => absurd hc.1 hnone,
      fun hc => absurd hc.1 hnone⟩

lemma count_not_inf (h : readCount data = .ok count) (neg : Bool) :
    getField (lit "human_count") data ≠ some (.float (.inf neg)) := by
  intro hneg
  cases h.symm.trans (readCount_inf hneg)

lemma safeData_of_confidence_error (hcount : readCount data = .ok count)
    (h : readConfidence data = .error e) : SafeData env data ↔ malformed e = true := by
  have hnone : ¬ Converts data := by
    rintro ⟨-, x, hx⟩
    cases h.symm.trans hx
  rw [readConfidence_error_iff h]
  constructor
  · intro hsafe n hn
    exact hsafe.confidence n hn ⟨count, hcount⟩
  · intro hint
    exact ⟨count_not_inf hcount, fun n hn _ => hint n hn, fun hc => absurd hc hnone,
      fun hc => absurd hc hnone⟩

lemma safeData_of_converts (hcount : readCount data = .ok count)
    (hconf : readConfidence data = .ok confidence) : SafeData env data ↔
      (∃ key, (readCamera data).toKey = .ok key) ∧ (readTimestamp data).depth ≤ env.reprLimit := by
  have hconverts : Converts data := ⟨⟨count, hcount⟩, confidence, hconf⟩
  constructor
  · intro hsafe
    exact ⟨hsafe.camera hconverts, hsafe.timestamp hconverts⟩
  · rintro ⟨hkey, hdepth⟩
    exact ⟨count_not_inf hcount, fun n hn _ => fits_of_readConfidence hconf hn, fun _ => hkey,
      fun _ => hdepth⟩

/-! ### Usable alerts -/

/-- The callback gets an alert whose camera is a key and whose timestamp can be printed. -/
def Usable (env : AlertEnv) (r : Except Exn Alert) : Prop :=
  ∃ alert, r = .ok alert ∧ (∃ key, alert.cameraId.toKey = .ok key) ∧
    alert.timestamp.depth ≤ env.reprLimit

lemma usable_error_iff (h : env.readAlert body = .error e) :
    Usable env (env.parseAlert body) ↔ malformed e = true := by
  unfold Usable
  rw [AlertEnv.parseAlert, h]
  dsimp only
  constructor
  · rintro ⟨alert, hparse, -⟩
    by_contra he
    rw [if_neg he] at hparse
    cases hparse
  · intro he
    exact ⟨fallbackAlert, if_pos he, ⟨_, rfl⟩, Nat.zero_le _⟩

lemma usable_of_ok {alert : Alert} (h : env.readAlert body = .ok alert) :
    Usable env (env.parseAlert body) ↔
      (∃ key, alert.cameraId.toKey = .ok key) ∧ alert.timestamp.depth ≤ env.reprLimit := by
  unfold Usable
  rw [AlertEnv.parseAlert, h]
  constructor
  · rintro ⟨a, ha, hkey, hdepth⟩
    obtain rfl := Except.ok.inj ha
    exact ⟨hkey, hdepth⟩
  · rintro ⟨hkey, hdepth⟩
    exact ⟨alert, rfl, hkey, hdepth⟩

lemma readAlert_of_text (htext : decode body = .ok text) :
    env.readAlert body = (loads env.loadsLimit text >>= readFields) := by
  unfold AlertEnv.readAlert
  rw [htext]
  rfl

lemma readAlert_of_value {value : Json} (htext : decode body = .ok text)
    (hvalue : loads env.loadsLimit text = .ok value) : env.readAlert body = readFields value := by
  rw [readAlert_of_text htext, hvalue]
  rfl

lemma usable_data_iff (htext : decode body = .ok text)
    (hdata : loads env.loadsLimit text = .ok (.obj data)) :
    Usable env (env.parseAlert body) ↔ SafeData env data := by
  have hread := readAlert_of_value htext hdata
  rw [readFields] at hread
  cases hcount : readCount data with
  | error e =>
    rw [hcount] at hread
    rw [usable_error_iff hread, safeData_of_count_error hcount]
  | ok count =>
    rw [hcount] at hread
    cases hconf : readConfidence data with
    | error e =>
      rw [hconf] at hread
      rw [usable_error_iff hread, safeData_of_confidence_error hcount hconf]
    | ok confidence =>
      rw [hconf] at hread
      rw [usable_of_ok hread, safeData_of_converts hcount hconf]

lemma safeBody_of_text (htext : decode body = .ok text) : SafeBody env body ↔
    loads env.loadsLimit text ≠ .error .recursionError ∧
    ∀ value, loads env.loadsLimit text = .ok value → ∃ data, value = .obj data ∧ SafeData env data := by
  constructor
  · intro h
    exact h text htext
  · intro h text' htext'
    obtain rfl := Except.ok.inj (htext.symm.trans htext')
    exact h

lemma usable_iff : Usable env (env.parseAlert body) ↔ SafeBody env body := by
  cases htext : decode body with
  | error e =>
    have herror : env.readAlert body = .error e := by
      unfold AlertEnv.readAlert
      rw [htext]
      rfl
    rw [usable_error_iff herror, decode_error htext]
    apply iff_of_true rfl
    intro text h
    cases htext.symm.trans h
  | ok text =>
    rw [safeBody_of_text htext]
    cases hvalue : loads env.loadsLimit text with
    | error e =>
      have herror : env.readAlert body = .error e := by
        rw [readAlert_of_text htext, hvalue]
        rfl
      rw [usable_error_iff herror]
      have hno : ∀ value, (Except.error e : Except Exn Json) = .ok value →
          ∃ data, value = .obj data ∧ SafeData env data := by
        intro value h
        cases h
      rcases loads_error hvalue with rfl | rfl | rfl
      · exact iff_of_true rfl ⟨by simp, hno⟩
      · exact iff_of_true rfl ⟨by simp, hno⟩
      · exact iff_of_false (by decide) (fun h => h.1 rfl)
    | ok value =>
      cases value with
      | obj data =>
        rw [usable_data_iff htext hvalue]
        simp
      | _ =>
        rw [usable_error_iff (readAlert_of_value htext hvalue)]
        apply iff_of_false (by decide)
        intro h
        obtain ⟨data, hdata, -⟩ := h.2 _ rfl
        cases hdata

end Fields

/-! ### The callback -/

section Survives

variable {env : AlertEnv} {body : List UInt8} {now : WallTime} {s : AlertState}

lemma text_isOk_iff {v : Json} : (∃ text, env.text v = .ok text) ↔ v.depth ≤ env.reprLimit :=
  Json.toStr_isOk_iff

/-- Up to the cooldowns, the callback needs a usable alert. -/
lemma opened_iff : (∃ alert camera timestamp, Opened env body alert camera timestamp ∧
      ∃ key, alert.cameraId.toKey = .ok key) ↔ Usable env (env.parseAlert body) := by
  constructor
  · rintro ⟨alert, camera, timestamp, hopen, hkey⟩
    exact ⟨alert, hopen.parsed, hkey, text_isOk_iff.mp ⟨timestamp, hopen.timestamp⟩⟩
  · rintro ⟨alert, hparse, ⟨key, hkey⟩, hdepth⟩
    obtain ⟨camera, hcamera⟩ : ∃ text, env.text alert.cameraId = .ok text := by
      rw [text_isOk_iff, Json.depth_of_key hkey]
      exact Nat.zero_le _
    obtain ⟨timestamp, htime⟩ := text_isOk_iff.mpr hdepth
    exact ⟨alert, camera, timestamp, ⟨hparse, hcamera, htime⟩, key, hkey⟩

lemma acks_append (t₁ t₂ : AlertTrace) : acks (t₁ ++ t₂) = acks t₁ + acks t₂ :=
  List.countP_append

/-- The callback returns with exactly one acknowledgement if and only if the body and the stamps
are safe. -/
theorem callback_survives_iff (env : AlertEnv) (s : AlertState) (body : List UInt8)
    (now : WallTime) :
    (∃ t s', Exec (env.callback body now) s t (.ok ()) s' ∧ acks t = 1) ↔
      SafeBody env body ∧ SafeCooldowns env s body now := by
  rw [← usable_iff]
  constructor
  · rintro ⟨t, s', h, -⟩
    have hruns := exec_callback h
    cases hruns with
    | acked hopen hntfy hcall =>
      obtain ⟨key, hkey, hcool⟩ := ntfy_isOk_iff.mp ⟨_, _, hntfy⟩
      have hcalls := call_isOk_iff.mp ⟨_, _, hcall⟩
      rw [lastCallTime_ntfy hntfy] at hcalls
      refine ⟨opened_iff.mp ⟨_, _, _, hopen, key, hkey⟩, ?_, hcalls⟩
      intro alert' key' hparse' hkey'
      obtain rfl := Except.ok.inj (hopen.parsed.symm.trans hparse')
      obtain rfl := Except.ok.inj (hkey.symm.trans hkey')
      exact hcool
  · rintro ⟨husable, hsafe⟩
    obtain ⟨alert, camera, timestamp, hopen, key, hkey⟩ := opened_iff.mpr husable
    obtain ⟨t₁, s₁, hntfy⟩ := ntfy_isOk_iff.mpr ⟨key, hkey, hsafe.ntfy alert key hopen.parsed hkey⟩
    obtain ⟨t₂, s₂, hcall⟩ : ∃ t₂ s₂, CallRuns env alert now s₁ t₂ (.ok ()) s₂ := by
      rw [call_isOk_iff, lastCallTime_ntfy hntfy]
      exact hsafe.call
    refine ⟨_, s₂, callback_acked hopen hntfy hcall, ?_⟩
    rw [acks_append, acks_append, acks_append, acks_ntfy hntfy, acks_call hcall]
    rfl

/-- The body `[]` is JSON without `get`. -/
theorem list_body_kills_consumer :
    ¬ ∃ t s', Exec (defaultAlertEnv.callback [91, 93] .zero) .start t (.ok ()) s' ∧ acks t = 1 := by
  rintro ⟨t, s', h, -⟩
  have hparse : defaultAlertEnv.parseAlert [91, 93] = .error .attributeError := rfl
  have hruns := exec_callback h
  cases hruns with
  | acked hopen =>
    have hparsed := hopen.parsed
    rw [hparse] at hparsed
    cases hparsed

end Survives

end IntruderWatch.Proofs
