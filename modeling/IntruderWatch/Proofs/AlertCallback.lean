import IntruderWatch.AlertService

/-!
# Runs of the alert callback

What the two dispatch parts and the whole callback can do, with the guard of every branch, and
when the callback comes to its `basic_ack`.
-/

namespace IntruderWatch.Proofs
open Py Interaction

/-! ### The clock -/

lemma small_lt : (2 : ℚ) ^ 35 < 2 ^ 970 :=
  pow_lt_pow_right₀ (by norm_num) (by norm_num)

lemma two_pow_lt_threshold : (2 : ℚ) ^ 35 < overflowThreshold := by
  have hzero := (isMagnitude_natCast (n := 0) (by norm_num)).add_lt small_lt
  rwa [Nat.cast_zero, zero_add] at hzero

lemma elapsed_finite (now last : WallTime) :
    ∃ neg m, now.elapsed last = .finite neg m ∧ m.val ≤ 2 ^ 35 := by
  have hnow := Binary64.abs_signed now.neg now.seconds
  have hlast := Binary64.abs_signed last.neg last.seconds
  have hle : |Binary64.signed now.neg now.seconds - Binary64.signed last.neg last.seconds| ≤
      2 ^ 35 := by
    have htri := abs_sub (Binary64.signed now.neg now.seconds)
      (Binary64.signed last.neg last.seconds)
    have h1 := now.bound
    have h2 := last.bound
    rw [hnow, hlast] at htri
    linarith
  obtain ⟨neg, m, hsub, hm⟩ := Binary64.sub_finite (hle.trans_lt two_pow_lt_threshold)
  exact ⟨neg, m, hsub, hm ▸ roundedMagnitude_le_pow (abs_nonneg _) hle⟩

/-- `float(n)` does not overflow. -/
def FitsFloat (n : Integer) : Prop :=
  (n.val.natAbs : ℚ) < overflowThreshold

lemma fitsFloat_small (n : ℕ) (h : n ≤ maxStrDigits) : FitsFloat (smallInteger n h) := by
  have hn : (n : ℚ) ≤ 2 ^ 35 := by
    have hle : (n : ℚ) ≤ (maxStrDigits : ℕ) := by exact_mod_cast h
    exact hle.trans (by norm_num [maxStrDigits])
  have hzero := (isMagnitude_natCast (n := 0) (by norm_num)).add_lt (hn.trans_lt small_lt)
  rwa [Nat.cast_zero, zero_add] at hzero

lemma remaining_isOk {cooldown : Integer} (h : FitsFloat cooldown) (now last : WallTime) :
    ∃ n, now.remaining cooldown last = .ok n := by
  obtain ⟨a, ha⟩ := roundMagnitude_isSome (by positivity) h
  obtain ⟨neg, m, hel, hm⟩ := elapsed_finite now last
  have hc : Binary64.ofInteger cooldown.val = .ok (.finite (cooldown.val < 0) a) := by
    rw [Binary64.ofInteger, ha]
  have hdiff : |Binary64.signed (cooldown.val < 0) a - Binary64.signed neg m| < overflowThreshold := by
    have htri := abs_sub (Binary64.signed (cooldown.val < 0) a) (Binary64.signed neg m)
    rw [Binary64.abs_signed, Binary64.abs_signed] at htri
    exact htri.trans_lt (a.2.add_lt (hm.trans_lt small_lt))
  obtain ⟨neg', m', hsub, -⟩ := Binary64.sub_finite hdiff
  unfold WallTime.remaining
  rw [hc, hel]
  exact ⟨_, bind_eq_ok.mpr ⟨_, rfl, by rw [hsub]; rfl⟩⟩

lemma remaining_overflow {cooldown : Integer} (h : ¬ FitsFloat cooldown) (now last : WallTime) :
    now.remaining cooldown last = .error .overflowError := by
  unfold WallTime.remaining
  rw [Binary64.ofInteger_overflow (not_lt.mp h)]
  rfl

lemma remaining_isOk_iff {cooldown : Integer} {now last : WallTime} :
    (∃ n, now.remaining cooldown last = .ok n) ↔ FitsFloat cooldown := by
  constructor
  · rintro ⟨n, hn⟩
    by_contra hfits
    rw [remaining_overflow hfits] at hn
    cases hn
  · intro h
    exact remaining_isOk h now last

/-! ### The two cooldowns -/

section Dispatch

variable (env : AlertEnv) (alert : Alert) (now : WallTime) (s : AlertState)

inductive NtfyRuns : AlertTrace → Except Exn Unit → AlertState → Prop
  | unhashable {e : Exn} : alert.cameraId.toKey = .error e → NtfyRuns [] (.error e) s
  | dispatched {key : Key} : alert.cameraId.toKey = .ok key →
      now.cooledDown env.ntfyCooldown (s.lastCamNtfy key) = true →
      NtfyRuns [⟨.startNtfy alert, ()⟩] (.ok ())
        { s with lastNtfyTimes := Function.update s.lastNtfyTimes key (some now) }
  | overflow {key : Key} {e : Exn} : alert.cameraId.toKey = .ok key →
      now.cooledDown env.ntfyCooldown (s.lastCamNtfy key) = false →
      now.remaining env.ntfyCooldown (s.lastCamNtfy key) = .error e → NtfyRuns [] (.error e) s
  | suppressed {key : Key} {remaining : Integer} : alert.cameraId.toKey = .ok key →
      now.cooledDown env.ntfyCooldown (s.lastCamNtfy key) = false →
      now.remaining env.ntfyCooldown (s.lastCamNtfy key) = .ok remaining →
      NtfyRuns [⟨.logNtfySuppressed remaining alert.cameraId, ()⟩,
        ⟨.alertsSuppressed alert.cameraId, ()⟩] (.ok ()) s

inductive CallRuns : AlertTrace → Except Exn Unit → AlertState → Prop
  | disabled : env.enableCallAlerts = false → CallRuns [] (.ok ()) s
  | dispatched : env.enableCallAlerts = true →
      now.cooledDown env.alertCooldown s.lastCallTime = true →
      CallRuns [⟨.startCalls, ()⟩] (.ok ()) { s with lastCallTime := now }
  | overflow {e : Exn} : env.enableCallAlerts = true →
      now.cooledDown env.alertCooldown s.lastCallTime = false →
      now.remaining env.alertCooldown s.lastCallTime = .error e → CallRuns [] (.error e) s
  | suppressed {remaining : Integer} : env.enableCallAlerts = true →
      now.cooledDown env.alertCooldown s.lastCallTime = false →
      now.remaining env.alertCooldown s.lastCallTime = .ok remaining →
      CallRuns [⟨.logCallSuppressed remaining alert.cameraId, ()⟩,
        ⟨.alertsSuppressed alert.cameraId, ()⟩] (.ok ()) s

variable {env alert now s} {s' : AlertState} {t : AlertTrace} {r : Except Exn Unit}

/-- The branch inside a cooldown, with `log` as the log line of its kind of alert. -/
lemma exec_suppressed {log : Integer → AlertCall} {remaining : Except Exn Integer} :
    Exec (do
      let n ← evaluate remaining
      let _ ← perform (log n)
      perform (.alertsSuppressed alert.cameraId)) s t r s' ↔
    (∃ e, remaining = .error e ∧ t = [] ∧ r = .error e ∧ s' = s) ∨
    ∃ n a, remaining = .ok n ∧ t = [⟨log n, a⟩, ⟨.alertsSuppressed alert.cameraId, ()⟩] ∧
      r = .ok () ∧ s' = s := by
  rw [exec_evaluate_bind]
  constructor
  · rintro (⟨e, hrem, rfl, rfl, rfl⟩ | ⟨n, hrem, h⟩)
    · exact Or.inl ⟨e, hrem, rfl, rfl, rfl⟩
    · obtain ⟨a, t', rfl, hcount⟩ := exec_perform_bind.mp h
      obtain ⟨-, rfl, rfl, rfl⟩ := exec_perform.mp hcount
      exact Or.inr ⟨n, a, hrem, rfl, rfl, rfl⟩
  · rintro (⟨e, hrem, rfl, rfl, rfl⟩ | ⟨n, a, hrem, rfl, rfl, rfl⟩)
    · exact Or.inl ⟨e, hrem, rfl, rfl, rfl⟩
    · refine Or.inr ⟨n, hrem, exec_perform_bind.mpr ⟨a, _, rfl, ?_⟩⟩
      exact exec_perform.mpr ⟨(), rfl, rfl, rfl⟩

lemma exec_dispatchNtfy : Exec (env.dispatchNtfy alert now) s t r s' ↔
    NtfyRuns env alert now s t r s' := by
  unfold AlertEnv.dispatchNtfy
  rw [exec_evaluate_bind]
  simp only [exec_get_bind]
  constructor
  · rintro (⟨e, hkey, rfl, rfl, rfl⟩ | ⟨key, hkey, h⟩)
    · exact .unhashable hkey
    · split at h
      · next hcool =>
        rw [exec_modify_bind, exec_perform] at h
        obtain ⟨-, rfl, rfl, rfl⟩ := h
        exact .dispatched hkey hcool
      · next hcool =>
        rw [Bool.not_eq_true] at hcool
        rcases exec_suppressed.mp h with ⟨e, hrem, rfl, rfl, rfl⟩ | ⟨n, a, hrem, rfl, rfl, rfl⟩
        · exact .overflow hkey hcool hrem
        · exact .suppressed hkey hcool hrem
  · intro h
    cases h with
    | unhashable hkey => exact Or.inl ⟨_, hkey, rfl, rfl, rfl⟩
    | dispatched hkey hcool =>
      refine Or.inr ⟨_, hkey, ?_⟩
      rw [if_pos hcool, exec_modify_bind, exec_perform]
      exact ⟨(), rfl, rfl, rfl⟩
    | overflow hkey hcool hrem =>
      refine Or.inr ⟨_, hkey, ?_⟩
      rw [if_neg (ne_true_of_eq_false hcool)]
      exact exec_suppressed.mpr (Or.inl ⟨_, hrem, rfl, rfl, rfl⟩)
    | suppressed hkey hcool hrem =>
      refine Or.inr ⟨_, hkey, ?_⟩
      rw [if_neg (ne_true_of_eq_false hcool)]
      exact exec_suppressed.mpr (Or.inr ⟨_, (), hrem, rfl, rfl, rfl⟩)

lemma exec_dispatchCall : Exec (env.dispatchCall alert now) s t r s' ↔
    CallRuns env alert now s t r s' := by
  unfold AlertEnv.dispatchCall
  rw [exec_get_bind]
  constructor
  · intro h
    split at h
    · next hen =>
      split at h
      · next hcool =>
        rw [exec_modify_bind, exec_perform] at h
        obtain ⟨-, rfl, rfl, rfl⟩ := h
        exact .dispatched hen hcool
      · next hcool =>
        rw [Bool.not_eq_true] at hcool
        rcases exec_suppressed.mp h with ⟨e, hrem, rfl, rfl, rfl⟩ | ⟨n, a, hrem, rfl, rfl, rfl⟩
        · exact .overflow hen hcool hrem
        · exact .suppressed hen hcool hrem
    · next hen =>
      rw [Bool.not_eq_true] at hen
      obtain ⟨rfl, rfl, rfl⟩ := exec_pure.mp h
      exact .disabled hen
  · intro h
    cases h with
    | disabled hen =>
      rw [if_neg (ne_true_of_eq_false hen)]
      exact exec_pure.mpr ⟨rfl, rfl, rfl⟩
    | dispatched hen hcool =>
      rw [if_pos hen, if_pos hcool, exec_modify_bind, exec_perform]
      exact ⟨(), rfl, rfl, rfl⟩
    | overflow hen hcool hrem =>
      rw [if_pos hen, if_neg (ne_true_of_eq_false hcool)]
      exact exec_suppressed.mpr (Or.inl ⟨_, hrem, rfl, rfl, rfl⟩)
    | suppressed hen hcool hrem =>
      rw [if_pos hen, if_neg (ne_true_of_eq_false hcool)]
      exact exec_suppressed.mpr (Or.inr ⟨_, (), hrem, rfl, rfl, rfl⟩)

end Dispatch

/-! ### The callback -/

section Callback

variable (env : AlertEnv) (body : List UInt8) (now : WallTime) (s : AlertState)

/-- The calls before the first cooldown. -/
def opening (alert : Alert) (camera timestamp : Str) : AlertTrace :=
  [⟨.alertsTotal alert.cameraId, ()⟩,
    ⟨.logAlert camera alert.humanCount alert.maxConfidence timestamp, ()⟩]

/-- The callback gets past its log line with this alert. -/
structure Opened (alert : Alert) (camera timestamp : Str) : Prop where
  parsed : env.parseAlert body = .ok alert
  camera : env.text alert.cameraId = .ok camera
  timestamp : env.text alert.timestamp = .ok timestamp

inductive CallbackRuns : AlertTrace → Except Exn Unit → AlertState → Prop
  | unreadable {e : Exn} : env.parseAlert body = .error e → CallbackRuns [] (.error e) s
  | unprintable {alert : Alert} {e : Exn} : env.parseAlert body = .ok alert →
      (env.text alert.cameraId = .error e ∨ env.text alert.timestamp = .error e) →
      CallbackRuns [⟨.alertsTotal alert.cameraId, ()⟩] (.error e) s
  | ntfyRaised {alert : Alert} {camera timestamp : Str} {t : AlertTrace} {e : Exn}
      {s₁ : AlertState} : Opened env body alert camera timestamp →
      NtfyRuns env alert now s t (.error e) s₁ →
      CallbackRuns (opening alert camera timestamp ++ t) (.error e) s₁
  | callRaised {alert : Alert} {camera timestamp : Str} {t₁ t₂ : AlertTrace} {e : Exn}
      {s₁ s₂ : AlertState} : Opened env body alert camera timestamp →
      NtfyRuns env alert now s t₁ (.ok ()) s₁ → CallRuns env alert now s₁ t₂ (.error e) s₂ →
      CallbackRuns (opening alert camera timestamp ++ t₁ ++ t₂) (.error e) s₂
  | acked {alert : Alert} {camera timestamp : Str} {t₁ t₂ : AlertTrace} {s₁ s₂ : AlertState} :
      Opened env body alert camera timestamp →
      NtfyRuns env alert now s t₁ (.ok ()) s₁ → CallRuns env alert now s₁ t₂ (.ok ()) s₂ →
      CallbackRuns (opening alert camera timestamp ++ t₁ ++ t₂ ++ [⟨.basicAck, ()⟩]) (.ok ()) s₂

variable {env body now s} {s' : AlertState} {t : AlertTrace} {r : Except Exn Unit}

lemma exec_callback (h : Exec (env.callback body now) s t r s') :
    CallbackRuns env body now s t r s' := by
  unfold AlertEnv.callback at h
  rw [exec_evaluate_bind] at h
  rcases h with ⟨e, hparse, rfl, rfl, rfl⟩ | ⟨alert, hparse, h⟩
  · exact .unreadable hparse
  rw [exec_perform_bind] at h
  obtain ⟨-, t, rfl, h⟩ := h
  rw [exec_evaluate_bind] at h
  rcases h with ⟨e, hcamera, rfl, rfl, rfl⟩ | ⟨camera, hcamera, h⟩
  · exact .unprintable hparse (Or.inl hcamera)
  rw [exec_evaluate_bind] at h
  rcases h with ⟨e, htime, rfl, rfl, rfl⟩ | ⟨timestamp, htime, h⟩
  · exact .unprintable hparse (Or.inr htime)
  have hopen : Opened env body alert camera timestamp := ⟨hparse, hcamera, htime⟩
  rw [exec_perform_bind] at h
  obtain ⟨-, t, rfl, h⟩ := h
  rw [exec_bind] at h
  rcases h with ⟨e, hntfy, rfl⟩ | ⟨t₁, t, ⟨⟩, s₁, rfl, hntfy, h⟩
  · exact .ntfyRaised hopen (exec_dispatchNtfy.mp hntfy)
  have hntfy := exec_dispatchNtfy.mp hntfy
  rw [exec_bind] at h
  rcases h with ⟨e, hcall, rfl⟩ | ⟨t₂, t, ⟨⟩, s₂, rfl, hcall, h⟩
  · have hcalls := CallbackRuns.callRaised hopen hntfy (exec_dispatchCall.mp hcall)
    exact hcalls
  · rw [exec_perform] at h
    obtain ⟨-, rfl, rfl, rfl⟩ := h
    have hcalls := CallbackRuns.acked hopen hntfy (exec_dispatchCall.mp hcall)
    rw [List.append_assoc, List.append_assoc] at hcalls
    exact hcalls

lemma callback_acked {alert : Alert} {camera timestamp : Str} {t₁ t₂ : AlertTrace}
    {s₁ s₂ : AlertState} (hopen : Opened env body alert camera timestamp)
    (hntfy : NtfyRuns env alert now s t₁ (.ok ()) s₁)
    (hcall : CallRuns env alert now s₁ t₂ (.ok ()) s₂) :
    Exec (env.callback body now) s
      (opening alert camera timestamp ++ t₁ ++ t₂ ++ [⟨.basicAck, ()⟩]) (.ok ()) s₂ := by
  unfold AlertEnv.callback
  rw [List.append_assoc, List.append_assoc]
  refine exec_evaluate_bind.mpr (Or.inr ⟨alert, hopen.parsed, ?_⟩)
  refine exec_perform_bind.mpr ⟨(), _, rfl, ?_⟩
  refine exec_evaluate_bind.mpr (Or.inr ⟨camera, hopen.camera, ?_⟩)
  refine exec_evaluate_bind.mpr (Or.inr ⟨timestamp, hopen.timestamp, ?_⟩)
  refine exec_perform_bind.mpr ⟨(), _, rfl, ?_⟩
  refine exec_bind.mpr (Or.inr ⟨t₁, _, (), s₁, rfl, exec_dispatchNtfy.mpr hntfy, ?_⟩)
  refine exec_bind.mpr (Or.inr ⟨t₂, _, (), s₂, rfl, exec_dispatchCall.mpr hcall, ?_⟩)
  exact exec_perform.mpr ⟨(), rfl, rfl, rfl⟩

end Callback

end IntruderWatch.Proofs
