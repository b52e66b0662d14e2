import IntruderWatch.VoiceCalls

/-!
# What a voice alert calls, and what it reports

A caller thread dials each configured number once, in order, and reports each call right after it,
whatever the provider answers. The reports only name positions, so that they are the same for all lists
of numbers with the same repetitions.
-/

namespace IntruderWatch.Proofs
open Py Interaction CallerEnv

/-- The reports of a call. -/
def outcomeReports (destination : Str) : Except Exn Unit → CallerTrace
  | .ok _ => [⟨.logSent destination, ()⟩, ⟨.notificationsSent destination, ()⟩]
  | .error e => [⟨.logFailed destination e, ()⟩, ⟨.notificationErrors destination e, ()⟩]

/-- The position at which a number is found. -/
def position (env : CallerEnv) (recipient : Str) : ℕ := env.recipientList.idxOf recipient

/-- A call with its reports. -/
def callRecord (env : CallerEnv) (recipient : Str) (reply : Except Exn Unit) : CallerTrace :=
  ⟨.callsCreate voiceUrl recipient env.twilioFrom, reply⟩ ::
    outcomeReports (phone (position env recipient)) reply

/-- The numbers among the parts of the setting. -/
def numbersOf (parts : List Str) : List Str := (parts.filter (fun num => strip num ≠ [])).map strip

/-- One call after the other. -/
def callRecords (env : CallerEnv) (numbers : List Str) (replies : List (Except Exn Unit)) : CallerTrace :=
  (List.zipWith (callRecord env) numbers replies).flatten

/-- What everyone may see: the log and the metrics. -/
def isReport : (op : CallerCall) × CallerAns op → Bool
  | ⟨.callsCreate _ _ _, _⟩ => false
  | _ => true

/-- Where each number stands first. -/
def positions (env : CallerEnv) : List ℕ := env.recipientList.map (position env)

section Calls

variable {env : CallerEnv} {recipient : Str} {s s' : Unit} {t : CallerTrace} {r : Except Exn Unit}

/-- A configured number is found, so that no call is reported under `configured_phone`. -/
lemma phoneId_of_mem (h : recipient ∈ env.recipientList) :
    env.phoneId recipient = pure (phone (position env recipient)) := by
  rw [phoneId, indexOf, if_pos (List.idxOf_lt_length_iff.mpr h)]
  rfl

/-- One call: whatever the provider answers, it is reported and nothing is raised. -/
lemma exec_sendCallAlert (h : recipient ∈ env.recipientList)
    (hexec : Exec (env.sendCallAlert recipient) s t r s') :
    r = .ok () ∧ ∃ reply, t = callRecord env recipient reply := by
  have hsend : env.sendCallAlert recipient = tryCatch (do
      let reply ← callsCreate voiceUrl recipient env.twilioFrom
      evaluate reply
      logSent (phone (position env recipient))
      notificationsSent (phone (position env recipient)))
      (fun e => do
        logFailed (phone (position env recipient)) e
        notificationErrors (phone (position env recipient)) e) := by
    rw [sendCallAlert, phoneId_of_mem h]
    rfl
  rw [hsend] at hexec
  rcases exec_tryCatch.mp hexec with ⟨u, hbody, rfl⟩ | ⟨t₁, t₂, e, s₁, rfl, hbody, hcatch⟩
  · obtain ⟨reply, t₁, rfl, hrest⟩ := exec_perform_bind.mp hbody
    rcases exec_evaluate_bind.mp hrest with ⟨e, -, -, he, -⟩ | ⟨u', rfl, hlog⟩
    · cases he
    · obtain ⟨_, t₂, rfl, hcount⟩ := exec_perform_bind.mp hlog
      obtain ⟨_, rfl, -, -⟩ := exec_perform.mp hcount
      exact ⟨rfl, .ok u', rfl⟩
  · obtain ⟨reply, t₃, rfl, hrest⟩ := exec_perform_bind.mp hbody
    rcases exec_evaluate_bind.mp hrest with ⟨e', rfl, rfl, he, -⟩ | ⟨u', rfl, hlog⟩
    · obtain rfl := Except.error.inj he
      obtain ⟨_, t₄, rfl, hcount⟩ := exec_perform_bind.mp hcatch
      obtain ⟨_, rfl, hr, -⟩ := exec_perform.mp hcount
      exact ⟨hr, .error e, rfl⟩
    · obtain ⟨_, t₄, rfl, hcount⟩ := exec_perform_bind.mp hlog
      obtain ⟨_, -, he, -⟩ := exec_perform.mp hcount
      cases he

/-- Each answer of the provider belongs to a run. -/
lemma sendCallAlert_exec (h : recipient ∈ env.recipientList) (reply : Except Exn Unit) :
    Exec (env.sendCallAlert recipient) () (callRecord env recipient reply) (.ok ()) () := by
  rw [sendCallAlert, phoneId_of_mem h]
  cases reply with
  | ok u => exact .call <| .call <| .call <| .ret _
  | error e => exact .call <| .call <| .call <| .ret _

lemma numbersOf_blank {part : Str} (h : strip part = []) (parts : List Str) :
    numbersOf (part :: parts) = numbersOf parts := by
  rw [numbersOf, List.filter_cons_of_neg (by simpa using h)]
  rfl

lemma numbersOf_cons {part : Str} (h : strip part ≠ []) (parts : List Str) :
    numbersOf (part :: parts) = strip part :: numbersOf parts := by
  rw [numbersOf, List.filter_cons_of_pos (by simpa using h)]
  rfl

lemma mem_numbersOf {part : Str} {parts : List Str} (hpart : part ∈ parts) (h : strip part ≠ []) :
    strip part ∈ numbersOf parts :=
  List.mem_map_of_mem (List.mem_filter.mpr ⟨hpart, by simpa using h⟩)

/-- The loop over some of the parts, all of whose numbers are configured. -/
lemma exec_callEach {parts : List Str}
    (hparts : ∀ part ∈ parts, strip part ≠ [] → strip part ∈ env.recipientList)
    (hexec : Exec (env.callEach parts) s t r s') : r = .ok () ∧ ∃ replies,
      replies.length = (numbersOf parts).length ∧ t = callRecords env (numbersOf parts) replies := by
  induction parts generalizing t s with
  | nil =>
    obtain ⟨rfl, rfl, -⟩ := exec_pure.mp hexec
    exact ⟨rfl, [], rfl, rfl⟩
  | cons part parts ih =>
    have hparts' : ∀ num ∈ parts, strip num ≠ [] → strip num ∈ env.recipientList :=
      fun num hnum => hparts num (List.mem_cons_of_mem _ hnum)
    rw [callEach] at hexec
    by_cases hblank : strip part = []
    · rw [if_neg (not_not.mpr hblank)] at hexec
      rw [numbersOf_blank hblank]
      exact ih hparts' hexec
    · rw [if_pos hblank] at hexec
      have hmem := hparts part List.mem_cons_self hblank
      rcases exec_bind.mp hexec with ⟨e, hsend, rfl⟩ | ⟨t₁, t₂, u, s₁, rfl, hsend, hloop⟩
      · cases (exec_sendCallAlert hmem hsend).1
      · obtain ⟨-, reply, rfl⟩ := exec_sendCallAlert hmem hsend
        obtain ⟨hr, replies, hlength, rfl⟩ := ih hparts' hloop
        rw [numbersOf_cons hblank]
        exact ⟨hr, reply :: replies, by rw [List.length_cons, hlength, List.length_cons], rfl⟩

/-- Every list of answers belongs to a run. -/
lemma callEach_exec {parts : List Str}
    (hparts : ∀ part ∈ parts, strip part ≠ [] → strip part ∈ env.recipientList)
    {replies : List (Except Exn Unit)} (hlength : replies.length = (numbersOf parts).length) :
    Exec (env.callEach parts) () (callRecords env (numbersOf parts) replies) (.ok ()) () := by
  induction parts generalizing replies with
  | nil => exact exec_pure.mpr ⟨rfl, rfl, rfl⟩
  | cons part parts ih =>
    have hparts' : ∀ num ∈ parts, strip num ≠ [] → strip num ∈ env.recipientList :=
      fun num hnum => hparts num (List.mem_cons_of_mem _ hnum)
    rw [callEach]
    by_cases hblank : strip part = []
    · rw [if_neg (not_not.mpr hblank), numbersOf_blank hblank]
      rw [numbersOf_blank hblank] at hlength
      exact ih hparts' hlength
    · rw [if_pos hblank, numbersOf_cons hblank]
      rw [numbersOf_cons hblank] at hlength
      cases replies with
      | nil => cases hlength
      | cons reply replies =>
        have hsend := sendCallAlert_exec (hparts part List.mem_cons_self hblank) reply
        exact exec_bind.mpr (Or.inr ⟨_, _, (), (), rfl, hsend, ih hparts' (Nat.succ.inj hlength)⟩)

lemma configured_parts (part : Str) (hpart : part ∈ split recipientColon env.alertRecipients)
    (h : strip part ≠ []) : strip part ∈ env.recipientList :=
  mem_numbersOf hpart h

/-! ### What the reports show -/

lemma filter_outcomeReports (destination : Str) (reply : Except Exn Unit) :
    (outcomeReports destination reply).filter isReport = outcomeReports destination reply := by
  cases reply <;> rfl

/-- The reports depend on the positions and the answers alone. -/
lemma filter_callRecords {numbers : List Str} {replies : List (Except Exn Unit)} :
    (callRecords env numbers replies).filter isReport =
      (List.zipWith (fun n reply => outcomeReports (phone n) reply) (numbers.map (position env))
        replies).flatten := by
  induction numbers generalizing replies with
  | nil => rfl
  | cons number numbers ih =>
    cases replies with
    | nil => rfl
    | cons reply replies =>
      rw [List.map_cons, List.zipWith_cons_cons, List.flatten_cons, ← ih, ← filter_outcomeReports,
        ← List.filter_append]
      rfl

/-- A voice alert ends; each number was called once, in order, and reported by its position, so that
another list with the same repetitions could have led to the same reports. -/
theorem calls_reported (h : Exec env.dispatchCalls s t r s') :
    r = .ok () ∧ (∃ replies, replies.length = env.recipientList.length ∧
      t = callRecords env env.recipientList replies) ∧
    ∀ env' : CallerEnv, positions env' = positions env → ∃ t',
      Exec env'.dispatchCalls () t' (.ok ()) () ∧ t'.filter isReport = t.filter isReport := by
  obtain ⟨hr, replies, hlength, rfl⟩ := exec_callEach configured_parts h
  refine ⟨hr, ⟨replies, hlength, rfl⟩, ?_⟩
  intro env' hpositions
  have hlength' : replies.length = env'.recipientList.length := by
    have hsame := congrArg List.length hpositions
    rw [positions, positions, List.length_map, List.length_map] at hsame
    exact hlength.trans hsame.symm
  refine ⟨_, callEach_exec configured_parts hlength', ?_⟩
  change (callRecords env' env'.recipientList replies).filter isReport =
    (callRecords env env.recipientList replies).filter isReport
  have hmap : env'.recipientList.map (position env') = env.recipientList.map (position env) := hpositions
  rw [filter_callRecords, filter_callRecords, hmap]

end Calls

/-! ### Two lists of numbers -/

def hotline : CallerEnv := ⟨lit " 110 ::112:110", some (lit "100")⟩

def otherHotline : CallerEnv := ⟨lit "911:999 :911", none⟩

/-- The second number cannot be reached. -/
def hotlineReplies : List (Except Exn Unit) := [.ok (), .error (.foreign "TwilioRestException"), .ok ()]

lemma hotline_numbers : hotline.recipientList = [lit "110", lit "112", lit "110"] := by decide

lemma hotline_exec : Exec hotline.dispatchCalls ()
    (callRecords hotline hotline.recipientList hotlineReplies) (.ok ()) () :=
  callEach_exec configured_parts (congrArg List.length hotline_numbers).symm

theorem calls_reported_hotline : ∃ t', Exec otherHotline.dispatchCalls () t' (.ok ()) () ∧
    t'.filter isReport =
      (callRecords hotline hotline.recipientList hotlineReplies).filter isReport :=
  (calls_reported hotline_exec).2.2 otherHotline (by decide)

end IntruderWatch.Proofs
