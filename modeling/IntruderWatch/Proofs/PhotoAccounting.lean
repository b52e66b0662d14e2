import IntruderWatch.Proofs.AlertCooldown

/-!
# The counters behind a photo alert

A sender thread counts one success or one error, except in two cases: a timestamp that cannot be
searched or split raises in front of the `try` statement, and a file name with too few parts
returns between the two counters. The file name of the fallback values has a single part.
-/

namespace IntruderWatch.Proofs
open Py Interaction

abbrev SendTrace := Trace SendCall SendAns

/-! ### Counters -/

def sentFor (t : SendTrace) : List Json :=
  t.filterMap (fun c => match c.1 with
    | .notificationsSent camera => some camera
    | _ => none)

def errorsFor (t : SendTrace) : List Json :=
  t.filterMap (fun c => match c.1 with
    | .notificationErrors camera _ => some camera
    | _ => none)

def postReplies (t : SendTrace) : List (Except Exn ℕ) :=
  t.filterMap (fun c => match c with
    | ⟨.post _ _ _, reply⟩ => some reply
    | _ => none)

/-- A POST was answered, with a status that is no error. -/
def PostSucceeded (t : SendTrace) : Prop :=
  ∃ status, .ok status ∈ postReplies t ∧ raiseForStatus status = .ok ()

/-- The thread returns after at most one POST and has incremented exactly one of the two counters,
the one for successes if and only if the POST succeeded. -/
structure PhotoAccounted (alert : Alert) (t : SendTrace) (r : Except Exn Unit) : Prop where
  returns : r = .ok ()
  single : (postReplies t).length ≤ 1
  counted : (PostSucceeded t ∧ sentFor t = [alert.cameraId] ∧ errorsFor t = []) ∨
    (¬ PostSucceeded t ∧ sentFor t = [] ∧ errorsFor t = [alert.cameraId])

/-! ### Timestamps and file names -/

/-- `"." in timestamp` does not raise, and only a string contains the dot. -/
def SplitsSafely : Json → Prop
  | .str _ => True
  | .arr items => ∀ v ∈ items, v ≠ .str [dot]
  | .obj data => ∀ field ∈ data, field.1 ≠ [dot]
  | _ => False

/-- A file name that is no string, or one with at least four parts. -/
def FourParts : Json → Prop
  | .str filename => 3 ≤ filename.count slash
  | _ => True

lemma any_isDot (items : List Json) :
    (items.any (fun v => match v with | .str s => s = [dot] | _ => false)) = true ↔
      ∃ v ∈ items, v = .str [dot] := by
  rw [List.any_eq_true]
  apply exists_congr
  intro v
  apply and_congr_right
  intro _
  cases v <;> simp

lemma getField_isSome_iff {key : Str} (fields : List (Str × Json)) :
    (getField key fields).isSome = true ↔ ∃ field ∈ fields, field.1 = key := by
  simp [getField, List.find?_isSome]

lemma cleanTimestamp_isOk_iff (timestamp : Json) :
    (∃ clean, cleanTimestamp timestamp = .ok clean) ↔ SplitsSafely timestamp := by
  cases timestamp with
  | str s => exact ⟨fun _ => trivial, fun _ => ⟨_, rfl⟩⟩
  | arr items =>
    rw [cleanTimestamp, SplitsSafely]
    split_ifs with hdot
    · obtain ⟨v, hv, hv'⟩ := (any_isDot items).mp hdot
      simp only [exists_false, false_iff, not_forall]
      exact ⟨v, hv, not_not.mpr hv'⟩
    · refine ⟨fun _ v hv hv' => hdot ?_, fun _ => ⟨_, rfl⟩⟩
      exact (any_isDot items).mpr ⟨v, hv, hv'⟩
  | obj data =>
    rw [cleanTimestamp, SplitsSafely]
    split_ifs with hdot
    · obtain ⟨field, hfield, hkey⟩ := (getField_isSome_iff data).mp hdot
      simp only [exists_false, false_iff, not_forall]
      exact ⟨field, hfield, not_not.mpr hkey⟩
    · refine ⟨fun _ field hfield hkey => hdot ?_, fun _ => ⟨_, rfl⟩⟩
      exact (getField_isSome_iff data).mpr ⟨field, hfield, hkey⟩
  | null | bool _ | int _ | float _ =>
    constructor
    · rintro ⟨clean, hclean⟩
      cases hclean
    · exact False.elim

lemma imageUrl_isSome_iff (env : AlertEnv) (filename : Str) :
    (env.imageUrl filename).isSome = true ↔ FourParts (.str filename) := by
  unfold AlertEnv.imageUrl FourParts
  dsimp only
  rw [length_split]
  by_cases hparts : 3 ≤ filename.count slash
  · rw [if_pos (Nat.succ_le_succ hparts)]
    have hlength : (split slash filename).reverse.length = filename.count slash + 1 := by
      rw [List.length_reverse, length_split]
    split
    · simp [hparts]
    · next hshort =>
      -- four parts have a last three
      match hreverse : (split slash filename).reverse, hshort with
      | fileName :: dateFolder :: camFolder :: _, hshort => exact (hshort _ _ _ _ rfl).elim
      | [_, _], _ | [_], _ | [], _ =>
        rw [hreverse] at hlength
        simp only [List.length_cons, List.length_nil] at hlength
        omega
  · rw [if_neg (by omega)]
    simp [hparts]

/-! ### One sender thread -/

section Sending

variable {env : AlertEnv} {alert : Alert} {clean : Json} {t : SendTrace} {r : Except Exn Unit}

/-- The calls of the `try` statement, with the POST if there is one. -/
inductive PostRuns (env : AlertEnv) (alert : Alert) : SendTrace → Except Exn Unit → Prop
  | short {filename : Str} : alert.filename = .str filename → env.imageUrl filename = none →
      PostRuns env alert [] (.ok ())
  | failed {e : Exn} : FourParts alert.filename → PostRuns env alert [] (.error e)
  | refused {url : Str} {data : List UInt8} {headers : List (Str × Str)} {reply : Except Exn ℕ}
      {e : Exn} : FourParts alert.filename → (∀ status, reply = .ok status →
        raiseForStatus status = .error e) →
      PostRuns env alert [⟨.post url data headers, reply⟩] (.error e)
  | sent {url : Str} {data : List UInt8} {headers : List (Str × Str)} {status : ℕ} :
      FourParts alert.filename → raiseForStatus status = .ok () →
      PostRuns env alert [⟨.post url data headers, Except.ok status⟩,
        ⟨.notificationsSent alert.cameraId, ()⟩] (.ok ())

lemma exec_postPhoto (h : Exec (env.postPhoto alert clean) () t r ()) : PostRuns env alert t r := by
  unfold AlertEnv.postPhoto at h
  rcases exec_evaluate_bind.mp h with ⟨e, he, rfl, rfl, -⟩ | ⟨filename, hfile, h⟩
  · apply PostRuns.failed
    cases hfilename : alert.filename with
    | str s =>
      rw [hfilename] at he
      cases he
    | _ => trivial
  have hstr : alert.filename = .str filename := by
    cases hfilename : alert.filename with
    | str s =>
      rw [hfilename] at hfile
      rw [Except.ok.inj hfile]
    | _ =>
      rw [hfilename] at hfile
      cases hfile
  cases hurl : env.imageUrl filename with
  | none =>
    rw [hurl] at h
    obtain ⟨rfl, rfl, -⟩ := exec_pure.mp h
    exact .short hstr hurl
  | some url =>
    have hparts : FourParts alert.filename := by
      rw [hstr]
      apply (imageUrl_isSome_iff env filename).mp
      rw [hurl]
      rfl
    rw [hurl] at h
    rcases exec_evaluate_bind.mp h with ⟨e, -, rfl, rfl, -⟩ | ⟨⟨title, message, tags⟩, -, h⟩
    · exact .failed hparts
    rcases exec_evaluate_bind.mp h with ⟨e, -, rfl, rfl, -⟩ | ⟨data, -, h⟩
    · exact .failed hparts
    obtain ⟨reply, t₁, rfl, hreplied⟩ := exec_perform_bind.mp h
    rcases exec_evaluate_bind.mp hreplied with ⟨e, he, rfl, rfl, -⟩ | ⟨status, hreply, hreplied⟩
    · apply PostRuns.refused hparts
      intro status hstatus
      cases he.symm.trans hstatus
    rcases exec_evaluate_bind.mp hreplied with ⟨e, he, rfl, rfl, -⟩ | ⟨⟨⟩, hstatus, hreplied⟩
    · apply PostRuns.refused hparts
      intro status' hstatus'
      obtain rfl := Except.ok.inj (hreply.symm.trans hstatus')
      exact he
    obtain ⟨⟨⟩, rfl, rfl, -⟩ := exec_perform.mp hreplied
    obtain rfl : reply = .ok status := hreply
    exact .sent hparts hstatus

lemma postSucceeded_iff {url : Str} {data : List UInt8} {headers : List (Str × Str)}
    {reply : Except Exn ℕ} {rest : SendTrace} (hrest : postReplies rest = []) :
    PostSucceeded (⟨.post url data headers, reply⟩ :: rest) ↔
      ∃ status, reply = .ok status ∧ raiseForStatus status = .ok () := by
  have hreplies : postReplies (⟨.post url data headers, reply⟩ :: rest) = [reply] := by
    change reply :: postReplies rest = _
    rw [hrest]
  unfold PostSucceeded
  rw [hreplies]
  apply exists_congr
  intro status
  rw [List.mem_singleton, eq_comm]

/-- A failing `try` statement is followed by one count. -/
lemma failed_accounted {e : Exn} (h : PostRuns env alert t (.error e)) (answer : Unit) :
    PhotoAccounted alert (t ++ [⟨.notificationErrors alert.cameraId e, answer⟩]) (.ok ()) ∧
      FourParts alert.filename := by
  cases h with
  | failed hparts =>
    refine ⟨⟨rfl, Nat.zero_le _, Or.inr ⟨?_, rfl, rfl⟩⟩, hparts⟩
    rintro ⟨status, hstatus, -⟩
    cases hstatus
  | refused hparts hrefused =>
    refine ⟨⟨rfl, le_rfl, Or.inr ⟨?_, rfl, rfl⟩⟩, hparts⟩
    rw [List.singleton_append, postSucceeded_iff rfl]
    rintro ⟨status, hreply, hstatus⟩
    cases (hrefused status hreply).symm.trans hstatus

lemma sender_accounted_iff (h : Exec (env.sendNtfyPhoto alert) () t r ()) :
    PhotoAccounted alert t r ↔ SplitsSafely alert.timestamp ∧ FourParts alert.filename := by
  unfold AlertEnv.sendNtfyPhoto at h
  rcases exec_evaluate_bind.mp h with ⟨e, he, rfl, rfl, -⟩ | ⟨clean, hclean, h⟩
  · constructor
    · intro haccounted
      cases haccounted.returns
    · rintro ⟨htimestamp, -⟩
      obtain ⟨clean, hclean⟩ := (cleanTimestamp_isOk_iff _).mpr htimestamp
      cases he.symm.trans hclean
  have htimestamp : SplitsSafely alert.timestamp := (cleanTimestamp_isOk_iff _).mp ⟨clean, hclean⟩
  rcases exec_tryCatch.mp h with ⟨⟨⟩, hpost, rfl⟩ | ⟨t₁, t₂, e, s₁, rfl, hpost, hcatch⟩
  · cases exec_postPhoto hpost with
    | short hfilename hurl =>
      constructor
      · rintro ⟨-, -, ⟨-, hsent, -⟩ | ⟨-, -, herrors⟩⟩
        · cases hsent
        · cases herrors
      · rintro ⟨-, hparts⟩
        rw [hfilename, ← imageUrl_isSome_iff env, hurl] at hparts
        cases hparts
    | sent hparts hstatus =>
      refine ⟨fun _ => ⟨htimestamp, hparts⟩, fun _ => ⟨rfl, le_rfl, Or.inl ⟨?_, rfl, rfl⟩⟩⟩
      exact (postSucceeded_iff rfl).mpr ⟨_, rfl, hstatus⟩
  · obtain ⟨answer, rfl, rfl, -⟩ := exec_perform.mp hcatch
    obtain ⟨haccounted, hparts⟩ := failed_accounted (exec_postPhoto hpost) answer
    exact ⟨fun _ => ⟨htimestamp, hparts⟩, fun _ => haccounted⟩

end Sending

/-! ### The dispatched alert -/

section Dispatched

variable {env : AlertEnv} {alert : Alert} {body : List UInt8} {now : WallTime} {s s' : AlertState}
  {calls : AlertTrace} {result : Except Exn Unit}

lemma ntfy_started {alert' : Alert} (h : NtfyRuns env alert now s calls result s')
    (hstart : alert' ∈ startedAlerts calls) : alert' = alert := by
  cases h with
  | dispatched => exact List.mem_singleton.mp hstart
  | _ => cases hstart

/-- The only alert that a callback dispatches is the one it has read. -/
lemma started_parsed (h : Exec (env.callback body now) s calls result s')
    (hstart : alert ∈ startedAlerts calls) : env.parseAlert body = .ok alert := by
  rcases callback_ntfy h with ⟨-, hnone, -⟩ |
    ⟨alert', camera, timestamp, t₁, r₁, s₁, hopen, hntfy, hstarted, -⟩
  · rw [hnone] at hstart
    cases hstart
  · rw [hstarted] at hstart
    rw [ntfy_started hntfy hstart, hopen.parsed]

/-- The body is well formed, with a timestamp that can be split and a file name in four parts. -/
def PhotoBody (env : AlertEnv) (body : List UInt8) : Prop :=
  ∃ alert, env.readAlert body = .ok alert ∧ SplitsSafely alert.timestamp ∧ FourParts alert.filename

lemma fallback_fourParts : ¬ FourParts fallbackAlert.filename := by
  intro h
  cases h

/-- The fallback values of a malformed body never have enough parts. -/
lemma photoBody_iff (h : env.parseAlert body = .ok alert) :
    PhotoBody env body ↔ SplitsSafely alert.timestamp ∧ FourParts alert.filename := by
  unfold AlertEnv.parseAlert at h
  unfold PhotoBody
  cases hread : env.readAlert body with
  | ok alert' =>
    rw [hread] at h
    obtain rfl := Except.ok.inj h
    constructor
    · rintro ⟨alert', hread, hsafe⟩
      rwa [Except.ok.inj hread]
    · exact fun hsafe => ⟨_, rfl, hsafe⟩
  | error e =>
    rw [hread] at h
    dsimp only at h
    split_ifs at h
    obtain rfl := Except.ok.inj h
    constructor
    · rintro ⟨alert, hread, -⟩
      cases hread
    · rintro ⟨-, hparts⟩
      exact (fallback_fourParts hparts).elim

/-- A dispatched photo alert is accounted for if and only if its body is well formed and has a
timestamp that can be split and a file name that is no string or has at least four parts. -/
theorem photo_accounted_iff {t : SendTrace} {r : Except Exn Unit}
    (h : Exec (env.callback body now) s calls result s') (hstart : alert ∈ startedAlerts calls)
    (hsend : Exec (env.sendNtfyPhoto alert) () t r ()) :
    PhotoAccounted alert t r ↔ PhotoBody env body := by
  rw [photoBody_iff (started_parsed h hstart)]
  exact sender_accounted_iff hsend

end Dispatched

/-! ### Two deliveries -/

section Deliveries

/-- The first delivery of an alert of camera `"unknown"`, at 100 s. -/
lemma firstDelivery_unknown (body : List UInt8) (alert : Alert)
    (hopen : Opened defaultAlertEnv body alert (lit "unknown") (lit "unknown"))
    (hcamera : alert.cameraId = unknown) : ∃ calls s,
      Exec (defaultAlertEnv.callback body (atSecond 100)) .start calls (.ok ()) s ∧
        alert ∈ startedAlerts calls := by
  have hkey : alert.cameraId.toKey = .ok (.str (lit "unknown")) := by
    rw [hcamera]
    rfl
  have hcool : (atSecond 100).cooledDown defaultAlertEnv.ntfyCooldown .zero = true := by
    decide +kernel
  have hntfy : NtfyRuns defaultAlertEnv alert (atSecond 100) .start [⟨.startNtfy alert, ()⟩]
      (.ok ()) _ := .dispatched hkey hcool
  refine ⟨_, _, callback_acked hopen hntfy (.disabled rfl), ?_⟩
  simp [startedAlerts, AlertCall.ntfyAlert?, opening]

/-- The sender of the fallback values returns without a call. -/
lemma fallback_silent : Exec (defaultAlertEnv.sendNtfyPhoto fallbackAlert) () [] (.ok ()) () :=
  .ret _

/-- A body that is no UTF-8 text is dispatched, and then counted nowhere. -/
theorem fallback_unaccounted : ¬ ∀ (body : List UInt8) (now : WallTime) (s s' : AlertState) calls
    result alert t r, Exec (defaultAlertEnv.callback body now) s calls result s' →
    alert ∈ startedAlerts calls → Exec (defaultAlertEnv.sendNtfyPhoto alert) () t r () →
    PhotoAccounted alert t r := by
  intro hall
  obtain ⟨calls, s, hexec, hstart⟩ :=
    firstDelivery_unknown [255] fallbackAlert ⟨rfl, rfl, rfl⟩ rfl
  have haccounted := hall _ _ _ _ _ _ _ _ _ hexec hstart fallback_silent
  obtain ⟨-, hsent, -⟩ | ⟨-, -, herrors⟩ := haccounted.counted
  · cases hsent
  · cases herrors

/-- The photo of the body `{"filename":"a/b/c/d"}`, which ntfy takes. -/
theorem photo_accounted_iff_taken : ∃ t, sentFor t = [unknown] ∧ PhotoAccounted photoAlert t (.ok ()) := by
  obtain ⟨calls, s, hexec, hstart⟩ :=
    firstDelivery_unknown photoBody photoAlert ⟨rfl, rfl, rfl⟩ rfl
  obtain ⟨t, hsent, hsend⟩ : ∃ t, sentFor t = [unknown] ∧
      Exec (defaultAlertEnv.sendNtfyPhoto photoAlert) () t (.ok ()) () :=
    ⟨[⟨.post _ _ _, Except.ok 200⟩, ⟨.notificationsSent unknown, ()⟩], rfl, .call <| .call <| .ret _⟩
  refine ⟨t, hsent, (photo_accounted_iff hexec hstart hsend).mpr ?_⟩
  exact ⟨photoAlert, rfl, trivial, show 3 ≤ (lit "a/b/c/d").count slash by decide⟩

end Deliveries

end IntruderWatch.Proofs
