import IntruderWatch.Library.Runs
import IntruderWatch.Webhook

/-!
# Batches of the Alertmanager webhook

The handler posts the alerts one after another and stops at the first failure. It answers 500 for
a partly delivered batch if and only if some alert behind the first is the first to fail; without
such a batch no alert is delivered twice, however often Alertmanager sends the batch again.
-/

namespace IntruderWatch.Proofs
open Py Interaction

/-! ### Deliveries -/

/-- The bodies of the POSTs with their answers. -/
def webhookPosts (t : WebhookTrace) : List (Str × Except Exn ℕ) :=
  t.filterMap (fun c => match c with
    | ⟨.post _ data _, reply⟩ => some (data, reply)
    | _ => none)

/-- A status that is no error. -/
def taken : Except Exn ℕ → Bool
  | .ok status => (raiseForStatus status).isOk
  | .error _ => false

/-- The POST of the `i`-th alert was made and taken; the alerts are posted in order. -/
def delivered (i : ℕ) (t : WebhookTrace) : Bool :=
  (webhookPosts t)[i]?.any (fun post => taken post.2)

/-- The POSTs succeed and fail as in the pattern, which has an answer for every position. -/
def FollowsPattern (pattern : ℕ → Except Exn ℕ) (t : WebhookTrace) : Prop :=
  ∀ i post, (webhookPosts t)[i]? = some post → post.2 = pattern i

/-! ### The loop -/

section Loop

variable (env : AlertEnv) (safeTopic : Str)

inductive NotifyRuns : List Json → WebhookTrace → Except Exn Unit → Prop
  | done : NotifyRuns [] [] (.ok ())
  | malformed {alert : Json} {rest : List Json} {e : Exn} : env.formatAlert alert = .error e →
      NotifyRuns (alert :: rest) [] (.error e)
  | refused {alert : Json} {rest : List Json} {n : Notification} {url : Str}
      {headers : List (Str × Str)} {reply : Except Exn ℕ} {e : Exn} :
      env.formatAlert alert = .ok n → taken reply = false →
      NotifyRuns (alert :: rest) [⟨.post url n.message headers, reply⟩] (.error e)
  | posted {alert : Json} {rest : List Json} {n : Notification} {url : Str}
      {headers : List (Str × Str)} {reply : Except Exn ℕ} {t : WebhookTrace}
      {r : Except Exn Unit} : env.formatAlert alert = .ok n → taken reply = true →
      NotifyRuns rest t r →
      NotifyRuns (alert :: rest)
        (⟨.post url n.message headers, reply⟩ :: ⟨.notificationsSent safeTopic, ()⟩ :: t) r

/-- The alert cannot be formatted, or its POST fails. -/
def Fails (pattern : ℕ → Except Exn ℕ) (i : ℕ) (alert : Json) : Prop :=
  (∃ e, env.formatAlert alert = .error e) ∨ taken (pattern i) = false

variable {env safeTopic} {batch : List Json} {t : WebhookTrace} {r : Except Exn Unit}

/-- One alert: its calls, and whether the loop goes on. -/
lemma exec_notify {alert : Json} (h : Exec (env.notify safeTopic alert) () t r ()) :
    (∃ e, env.formatAlert alert = .error e ∧ t = [] ∧ r = .error e) ∨
    ∃ n url headers reply, env.formatAlert alert = .ok n ∧
      ((taken reply = false ∧ t = [⟨.post url n.message headers, reply⟩] ∧ ∃ e, r = .error e) ∨
        (taken reply = true ∧ r = .ok () ∧
          t = [⟨.post url n.message headers, reply⟩, ⟨.notificationsSent safeTopic, ()⟩])) := by
  unfold AlertEnv.notify at h
  rcases exec_evaluate_bind.mp h with ⟨e, he, rfl, rfl, -⟩ | ⟨n, hn, hpost⟩
  · exact Or.inl ⟨e, he, rfl, rfl⟩
  obtain ⟨reply, t₁, rfl, hreply⟩ := exec_perform_bind.mp hpost
  refine Or.inr ⟨n, env.ntfyInternalUrl ++ slash :: safeTopic,
    [(lit "Title", n.title), (lit "Priority", n.priority), (lit "Tags", n.tag)], reply, hn, ?_⟩
  rcases exec_evaluate_bind.mp hreply with ⟨e, he, rfl, rfl, -⟩ | ⟨status, hstatus, hraise⟩
  · obtain rfl : reply = .error e := he
    exact Or.inl ⟨rfl, rfl, e, rfl⟩
  obtain rfl : reply = .ok status := hstatus
  have htaken : taken (.ok status) = (raiseForStatus status).isOk := rfl
  rcases exec_evaluate_bind.mp hraise with ⟨e, he, rfl, rfl, -⟩ | ⟨⟨⟩, hok, hsent⟩
  · rw [he] at htaken
    exact Or.inl ⟨htaken, rfl, e, rfl⟩
  · obtain ⟨⟨⟩, rfl, rfl, -⟩ := exec_perform.mp hsent
    rw [hok] at htaken
    exact Or.inr ⟨htaken, rfl, rfl⟩

lemma exec_notifyAll (h : Exec (env.notifyAll safeTopic batch) () t r ()) :
    NotifyRuns env safeTopic batch t r := by
  induction batch generalizing t with
  | nil =>
    obtain ⟨rfl, rfl, -⟩ := exec_pure.mp h
    exact .done
  | cons alert rest ih =>
    rcases exec_bind.mp h with ⟨e, hfirst, rfl⟩ | ⟨t₁, t₂, ⟨⟩, ⟨⟩, rfl, hfirst, hrest⟩
    · rcases exec_notify hfirst with ⟨e', he, rfl, hr⟩ |
        ⟨n, url, headers, reply, hn, ⟨hreply, rfl, -⟩ | ⟨-, hr, -⟩⟩
      · rw [hr]
        exact .malformed he
      · exact .refused hn hreply
      · cases hr
    · rcases exec_notify hfirst with ⟨e', -, -, hr⟩ |
        ⟨n, url, headers, reply, hn, ⟨-, -, e', hr⟩ | ⟨hreply, -, rfl⟩⟩
      · cases hr
      · cases hr
      · exact .posted hn hreply (ih hrest)

/-- The `i`-th POST carries the text of the `i`-th alert. -/
lemma post_of_batch (h : NotifyRuns env safeTopic batch t r) {i : ℕ} {post : Str × Except Exn ℕ}
    (hpost : (webhookPosts t)[i]? = some post) : ∃ alert n,
      batch[i]? = some alert ∧ env.formatAlert alert = .ok n ∧ post.1 = n.message := by
  induction h generalizing i with
  | done => cases hpost
  | malformed => cases hpost
  | @refused alert rest n url headers reply e hn =>
    cases i with
    | zero => exact ⟨alert, n, rfl, hn, (congrArg Prod.fst (Option.some.inj hpost)).symm⟩
    | succ i => cases hpost
  | @posted alert rest n url headers reply t r hn _ _ ih =>
    cases i with
    | zero => exact ⟨alert, n, rfl, hn, (congrArg Prod.fst (Option.some.inj hpost)).symm⟩
    | succ i => exact ih hpost

/-- The loop ends if and only if no alert fails. -/
lemma notifyAll_ok_iff (h : NotifyRuns env safeTopic batch t r) {pattern : ℕ → Except Exn ℕ}
    (hpattern : FollowsPattern pattern t) :
    r = .ok () ↔ ∀ i alert, batch[i]? = some alert → ¬ Fails env pattern i alert := by
  induction h generalizing pattern with
  | done => simp
  | @malformed alert rest e he =>
    constructor
    · intro hr
      cases hr
    · intro hnone
      exact absurd (Or.inl ⟨e, he⟩) (hnone 0 alert rfl)
  | @refused alert rest n url headers reply e hn hreply =>
    constructor
    · intro hr
      cases hr
    · intro hnone
      have hfirst : reply = pattern 0 := hpattern 0 _ rfl
      rw [hfirst] at hreply
      exact absurd (Or.inr hreply) (hnone 0 alert rfl)
  | @posted alert rest n url headers reply t r hn hreply _ ih =>
    have hfirst : reply = pattern 0 := hpattern 0 _ rfl
    rw [hfirst] at hreply
    have hshift : FollowsPattern (fun i => pattern (i + 1)) t :=
      fun i post hi => hpattern (i + 1) post hi
    rw [ih hshift]
    constructor
    · intro hrest i alert' hi
      cases i with
      | zero =>
        obtain rfl := Option.some.inj hi
        rintro (⟨e, he⟩ | hrefused)
        · cases hn.symm.trans he
        · cases hreply.symm.trans hrefused
      | succ i => exact hrest i alert' hi
    · exact fun hnone i alert' hi => hnone (i + 1) alert' hi

/-- Something is delivered if and only if the first alert does not fail. -/
lemma undelivered_iff {first : Json} {rest : List Json}
    (h : NotifyRuns env safeTopic (first :: rest) t r) {pattern : ℕ → Except Exn ℕ}
    (hpattern : FollowsPattern pattern t) :
    (∀ i, delivered i t = false) ↔ Fails env pattern 0 first := by
  cases h with
  | malformed he =>
    constructor
    · exact fun _ => Or.inl ⟨_, he⟩
    · exact fun _ i => rfl
  | @refused _ _ n url headers reply e hn hreply =>
    have hfirst : reply = pattern 0 := hpattern 0 _ rfl
    constructor
    · rw [hfirst] at hreply
      exact fun _ => Or.inr hreply
    · intro _ i
      cases i with
      | zero => exact hreply
      | succ i => rfl
  | @posted _ _ n url headers reply t r hn hreply =>
    have hfirst : reply = pattern 0 := hpattern 0 _ rfl
    constructor
    · intro hnone
      cases hreply.symm.trans (hnone 0)
    · rintro (⟨e, he⟩ | hrefused)
      · cases hn.symm.trans he
      · rw [← hfirst] at hrefused
        cases hreply.symm.trans hrefused

end Loop

/-! ### One call -/

section Call

variable {env : AlertEnv} {request : WebhookRequest} {a : Attempt} {pattern : ℕ → Except Exn ℕ}

/-- The handler comes to its loop with this batch. -/
def ReachesLoop (request : WebhookRequest) (safeTopic : Str) (batch : List Json) : Prop :=
  ∃ data alerts, request.json = .ok data ∧ data.truthy = true ∧
    request.safeTopic = some safeTopic ∧ data.getOr (lit "alerts") (.arr []) = .ok alerts ∧
    alerts.iterate = .ok batch

lemma reachesLoop_unique {safeTopic safeTopic' : Str} {batch batch' : List Json}
    (h : ReachesLoop request safeTopic batch) (h' : ReachesLoop request safeTopic' batch') :
    batch = batch' := by
  obtain ⟨data, alerts, hdata, -, -, halerts, hbatch⟩ := h
  obtain ⟨data', alerts', hdata', -, -, halerts', hbatch'⟩ := h'
  obtain rfl := Except.ok.inj (hdata.symm.trans hdata')
  obtain rfl := Except.ok.inj (halerts.symm.trans halerts')
  exact Except.ok.inj (hbatch.symm.trans hbatch')

/-- What is asked of a call: it answers 500 only if it has delivered none of the alerts. -/
def AllOrNothing (a : Attempt) : Prop :=
  a.response.status = 500 → ∀ i, delivered i a.calls = false

/-- The first alert fails, or none does. -/
def FirstOrNone (env : AlertEnv) (request : WebhookRequest) (pattern : ℕ → Except Exn ℕ) : Prop :=
  ∀ safeTopic first rest, ReachesLoop request safeTopic (first :: rest) →
    Fails env pattern 0 first ∨
      ∀ i alert, (first :: rest)[i]? = some alert → ¬ Fails env pattern i alert

inductive WebhookRuns (env : AlertEnv) (request : WebhookRequest) : Attempt → Prop
  | refused {response : WebhookResponse} :
      (∀ safeTopic batch, ¬ ReachesLoop request safeTopic batch) →
      WebhookRuns env request ⟨[], response⟩
  | looped {safeTopic : Str} {batch : List Json} {t : WebhookTrace} {r : Except Exn Unit}
      {response : WebhookResponse} : ReachesLoop request safeTopic batch →
      NotifyRuns env safeTopic batch t r →
      response.status = (if r.isOk then 200 else 500) → WebhookRuns env request ⟨t, response⟩

lemma exec_handleBatch {t : WebhookTrace} {r : Except Exn WebhookResponse}
    (h : Exec (env.handleBatch request) () t r ()) :
    (t = [] ∧ ∀ safeTopic batch, ¬ ReachesLoop request safeTopic batch) ∨
    ∃ safeTopic batch result, ReachesLoop request safeTopic batch ∧
      NotifyRuns env safeTopic batch t result ∧
      ((result = .ok () ∧ ∃ response, r = .ok response ∧ response.status = 200) ∨
        ∃ e, result = .error e ∧ r = .error e) := by
  unfold AlertEnv.handleBatch at h
  rcases exec_evaluate_bind.mp h with ⟨e, he, rfl, -, -⟩ | ⟨data, hdata, h⟩
  · refine Or.inl ⟨rfl, ?_⟩
    rintro safeTopic batch ⟨data, alerts, hdata, -⟩
    cases he.symm.trans hdata
  split_ifs at h with htruthy
  swap
  · obtain ⟨rfl, -, -⟩ := exec_pure.mp h
    refine Or.inl ⟨rfl, ?_⟩
    rintro safeTopic batch ⟨data', alerts, hdata', htruthy', -⟩
    obtain rfl := Except.ok.inj (hdata.symm.trans hdata')
    exact htruthy htruthy'
  cases htopic : request.safeTopic with
  | none =>
    rw [htopic] at h
    obtain ⟨rfl, -, -⟩ := exec_pure.mp h
    refine Or.inl ⟨rfl, ?_⟩
    rintro safeTopic batch ⟨data', alerts, -, -, htopic', -⟩
    cases htopic.symm.trans htopic'
  | some safeTopic =>
    rw [htopic] at h
    rcases exec_evaluate_bind.mp h with ⟨e, he, rfl, -, -⟩ | ⟨alerts, halerts, h⟩
    · refine Or.inl ⟨rfl, ?_⟩
      rintro safeTopic' batch ⟨data', alerts, hdata', -, -, halerts, -⟩
      obtain rfl := Except.ok.inj (hdata.symm.trans hdata')
      cases he.symm.trans halerts
    rcases exec_evaluate_bind.mp h with ⟨e, he, rfl, -, -⟩ | ⟨batch, hbatch, h⟩
    · refine Or.inl ⟨rfl, ?_⟩
      rintro safeTopic' batch ⟨data', alerts', hdata', -, -, halerts', hbatch⟩
      obtain rfl := Except.ok.inj (hdata.symm.trans hdata')
      obtain rfl := Except.ok.inj (halerts.symm.trans halerts')
      cases he.symm.trans hbatch
    have hreaches : ReachesLoop request safeTopic batch :=
      ⟨data, alerts, hdata, htruthy, htopic, halerts, hbatch⟩
    rcases exec_bind.mp h with ⟨e, hloop, rfl⟩ | ⟨t₁, t₂, ⟨⟩, ⟨⟩, rfl, hloop, hanswer⟩
    · exact Or.inr ⟨safeTopic, batch, _, hreaches, exec_notifyAll hloop, Or.inr ⟨e, rfl, rfl⟩⟩
    · obtain ⟨rfl, rfl, -⟩ := exec_pure.mp hanswer
      rw [List.append_nil]
      exact Or.inr ⟨safeTopic, batch, _, hreaches, exec_notifyAll hloop,
        Or.inl ⟨rfl, _, rfl, rfl⟩⟩

lemma exec_webhook (h : Exec (env.webhook request) () a.calls (.ok a.response) ()) :
    WebhookRuns env request a := by
  obtain ⟨calls, response⟩ := a
  rcases exec_tryCatch.mp h with ⟨response', hbatch, hr⟩ | ⟨t₁, t₂, e, ⟨⟩, hcalls, hbatch, hcatch⟩
  · dsimp only at hbatch hr
    obtain rfl := Except.ok.inj hr
    rcases exec_handleBatch hbatch with ⟨rfl, hnot⟩ |
      ⟨safeTopic, batch, result, hreaches, hloop, ⟨rfl, response', hr, hstatus⟩ | ⟨e, -, hr⟩⟩
    · exact .refused hnot
    · obtain rfl := Except.ok.inj hr
      exact .looped hreaches hloop hstatus
    · cases hr
  · obtain ⟨rfl, hr, -⟩ := exec_pure.mp hcatch
    rw [List.append_nil] at hcalls
    dsimp only at hcalls hr
    obtain rfl := hcalls
    obtain rfl := Except.ok.inj hr
    rcases exec_handleBatch hbatch with ⟨rfl, hnot⟩ |
      ⟨safeTopic, batch, result, hreaches, hloop, ⟨-, response', hr, -⟩ | ⟨e', rfl, -⟩⟩
    · exact .refused hnot
    · cases hr
    · exact .looped hreaches hloop rfl

/-- The handler answers 500 only for an undelivered batch if and only if the first alert fails or
none does. -/
lemma allOrNothing_iff (h : WebhookRuns env request a) (hpattern : FollowsPattern pattern a.calls) :
    AllOrNothing a ↔ FirstOrNone env request pattern := by
  cases h with
  | refused hnot =>
    constructor
    · intro _ safeTopic first rest hreaches
      exact (hnot safeTopic _ hreaches).elim
    · exact fun _ _ i => rfl
  | @looped safeTopic batch t r response hreaches hloop hstatus =>
    have hfailed : response.status = 500 ↔ r ≠ .ok () := by
      rw [hstatus]
      cases r with
      | ok u => simp [Except.isOk, Except.toBool]
      | error e => simp [Except.isOk, Except.toBool]
    unfold AllOrNothing
    dsimp only at hpattern ⊢
    rw [hfailed, Ne, notifyAll_ok_iff hloop hpattern]
    constructor
    · intro hnothing safeTopic' first rest hreaches'
      obtain rfl := reachesLoop_unique hreaches hreaches'
      rw [undelivered_iff hloop hpattern] at hnothing
      exact or_iff_not_imp_right.mpr hnothing
    · intro hwhole hfails
      cases batch with
      | nil => exact absurd (fun i alert hi => nomatch hi) hfails
      | cons first rest =>
        rw [undelivered_iff hloop hpattern]
        exact (hwhole safeTopic first rest hreaches).resolve_right hfails

/-- Such a call is sent again only if it has delivered nothing. -/
lemma undelivered_of_due (h : WebhookRuns env request a) (hnothing : AllOrNothing a)
    (hdue : 500 ≤ a.response.status) (i : ℕ) : delivered i a.calls = false := by
  cases h with
  | refused => rfl
  | @looped safeTopic batch t r response _ _ hstatus =>
    apply hnothing
    change 500 ≤ response.status at hdue
    change response.status = 500
    rw [hstatus] at hdue ⊢
    split_ifs at hdue ⊢
    · omega
    · rfl

end Call

/-! ### Retries -/

section Retries

variable {env : AlertEnv} {request : WebhookRequest} {attempts : List Attempt} {due : Bool}

/-- An attempt in which the first alert fails, or none does. -/
def WholeResendStep (env : AlertEnv) (request : WebhookRequest) (due : Bool) (a : Attempt)
    (due' : Bool) : Prop :=
  ResendStep env request due a due' ∧
    ∃ pattern, FollowsPattern pattern a.calls ∧ FirstOrNone env request pattern

/-- How often the `i`-th alert of the batch was delivered. -/
def timesDelivered (i : ℕ) (attempts : List Attempt) : ℕ :=
  attempts.countP (fun a => delivered i a.calls)

lemma timesDelivered_snoc (i : ℕ) (attempts : List Attempt) (a : Attempt) :
    timesDelivered i (attempts ++ [a]) = timesDelivered i attempts + if delivered i a.calls then 1 else 0 := by
  unfold timesDelivered
  rw [List.countP_append, List.countP_singleton]

/-- As long as the batch is due nothing has been delivered. -/
lemma timesDelivered_run (h : Transition.Run (WholeResendStep env request) true attempts due) (i : ℕ) :
    timesDelivered i attempts ≤ 1 ∧ (due = true → timesDelivered i attempts = 0) := by
  induction h with
  | nil => exact ⟨Nat.zero_le _, fun _ => rfl⟩
  | @snoc past due a due' _ hstep ih =>
    obtain ⟨hresend, pattern, hpattern, hwhole⟩ := hstep
    cases hresend with
    | attempt hexec =>
      have hruns := exec_webhook hexec
      have hnothing := (allOrNothing_iff hruns hpattern).mpr hwhole
      rw [timesDelivered_snoc, ih.2 rfl, Nat.zero_add]
      constructor
      · split_ifs
        · exact le_rfl
        · exact Nat.zero_le 1
      · intro hdue
        rw [undelivered_of_due hruns hnothing (of_decide_eq_true hdue)]
        rfl

/-- For every batch and every pattern of POSTs the handler answers 500 only for an undelivered batch
if and only if the first alert fails or none does; when this holds of every attempt, no alert is
delivered twice. -/
theorem batch_whole_iff (env : AlertEnv) (request : WebhookRequest) :
    (∀ a pattern, Exec (env.webhook request) () a.calls (.ok a.response) () →
      FollowsPattern pattern a.calls → (AllOrNothing a ↔ FirstOrNone env request pattern)) ∧
    ∀ attempts due, Transition.Run (WholeResendStep env request) true attempts due →
      ∀ i, timesDelivered i attempts ≤ 1 := by
  constructor
  · intro a pattern hexec hpattern
    exact allOrNothing_iff (exec_webhook hexec) hpattern
  · intro attempts due h i
    exact (timesDelivered_run h i).1

end Retries

/-! ### A batch of two alerts -/

section TwoAlerts

/-- The body `{"alerts":[{},{}]}`. -/
def twoAlerts : WebhookRequest where
  json := .ok (.obj [(lit "alerts", .arr [emptyDict, emptyDict])])
  topic := none

def okResponse : WebhookResponse := ⟨lit "status", lit "ok", 200⟩

def errorResponse : WebhookResponse := ⟨lit "error", lit "Internal server error", 500⟩

/-- The handler on two alerts, the POSTs being answered with these statuses. -/
lemma bothTaken_exec : ∃ t, Exec (defaultAlertEnv.webhook twoAlerts) () t (.ok okResponse) () ∧
    (webhookPosts t).map Prod.snd = [.ok 200, .ok 200] :=
  ⟨[⟨.post _ _ _, Except.ok 200⟩, ⟨.notificationsSent _, ()⟩, ⟨.post _ _ _, Except.ok 200⟩,
    ⟨.notificationsSent _, ()⟩], .call <| .call <| .call <| .call <| .ret _, rfl⟩

lemma secondRefused_exec : ∃ t,
    Exec (defaultAlertEnv.webhook twoAlerts) () t (.ok errorResponse) () ∧
    (webhookPosts t).map Prod.snd = [.ok 200, .ok 503] :=
  ⟨[⟨.post _ _ _, Except.ok 200⟩, ⟨.notificationsSent _, ()⟩, ⟨.post _ _ _, Except.ok 503⟩],
    .call <| .call <| .call <| .ret _, rfl⟩

lemma firstRefused_exec : ∃ t,
    Exec (defaultAlertEnv.webhook twoAlerts) () t (.ok errorResponse) () ∧
    (webhookPosts t).map Prod.snd = [.ok 503] :=
  ⟨[⟨.post _ _ _, Except.ok 503⟩], .call <| .ret _, rfl⟩

lemma delivered_eq (i : ℕ) (t : WebhookTrace) :
    delivered i t = ((webhookPosts t).map Prod.snd)[i]?.any taken := by
  rw [delivered, List.getElem?_map]
  cases (webhookPosts t)[i]? <;> rfl

/-- The second POST fails, and the batch comes again. -/
lemma secondRefused_run : ∃ a b,
    Exec (defaultAlertEnv.webhook twoAlerts) () a.calls (.ok a.response) () ∧ ¬ AllOrNothing a ∧
      ResendRun defaultAlertEnv twoAlerts [a, b] false ∧ timesDelivered 0 [a, b] = 2 := by
  obtain ⟨t, hexec, hreplies⟩ := secondRefused_exec
  obtain ⟨t', hexec', hreplies'⟩ := bothTaken_exec
  have hdelivered : delivered 0 t = true := by
    rw [delivered_eq, hreplies]
    rfl
  have hdelivered' : delivered 0 t' = true := by
    rw [delivered_eq, hreplies']
    rfl
  have hrun := Transition.Run.single (ResendStep.attempt (a := ⟨t, errorResponse⟩) hexec)
  refine ⟨⟨t, errorResponse⟩, ⟨t', okResponse⟩, hexec, ?_, hrun.snoc (.attempt hexec'), ?_⟩
  · intro hnothing
    cases hdelivered.symm.trans (hnothing rfl 0)
  · simp [timesDelivered, hdelivered, hdelivered']

/-- A partly delivered batch is answered with 500, and its first alert is delivered again. -/
theorem secondRefused_duplicates :
    (¬ ∀ request a, Exec (defaultAlertEnv.webhook request) () a.calls (.ok a.response) () →
      AllOrNothing a) ∧
    ¬ ∀ request attempts due, ResendRun defaultAlertEnv request attempts due →
      ∀ i, timesDelivered i attempts ≤ 1 := by
  obtain ⟨a, b, hexec, hpartly, hrun, htwice⟩ := secondRefused_run
  constructor
  · intro hall
    exact hpartly (hall twoAlerts a hexec)
  · intro hall
    have hle := hall twoAlerts [a, b] false hrun 0
    rw [htwice] at hle
    norm_num at hle

lemma twoAlerts_reach :
    ReachesLoop twoAlerts (lit "infra-alerts") [emptyDict, emptyDict] :=
  ⟨_, _, rfl, rfl, rfl, rfl, rfl⟩

lemma firstOrNone_refused : FirstOrNone defaultAlertEnv twoAlerts (fun _ => .ok 503) :=
  fun _ _ _ _ => Or.inl (Or.inr rfl)

lemma firstOrNone_taken : FirstOrNone defaultAlertEnv twoAlerts (fun _ => .ok 200) := by
  intro safeTopic first rest hreaches
  right
  intro i alert hi
  rw [reachesLoop_unique hreaches twoAlerts_reach] at hi
  have halert : alert = emptyDict := by
    have hmem := List.mem_of_getElem? hi
    simpa using hmem
  rw [halert]
  rintro (⟨e, he⟩ | hrefused)
  · cases he
  · cases hrefused

lemma followsPattern_of_replies {t : WebhookTrace} {reply : Except Exn ℕ}
    (h : ∀ reply' ∈ (webhookPosts t).map Prod.snd, reply' = reply) :
    FollowsPattern (fun _ => reply) t := by
  intro i post hpost
  exact h _ (List.mem_map_of_mem (List.mem_of_getElem? hpost))

/-- The first POST fails, and both succeed when the batch comes again. -/
theorem batch_whole_iff_resent : ∃ a b, a.response.status = 500 ∧ b.response.status = 200 ∧
    ∀ i, timesDelivered i [a, b] ≤ 1 := by
  obtain ⟨t, hexec, hreplies⟩ := firstRefused_exec
  obtain ⟨t', hexec', hreplies'⟩ := bothTaken_exec
  have hfirst : FollowsPattern (fun _ => .ok 503) t := by
    apply followsPattern_of_replies
    simp [hreplies]
  have hsecond : FollowsPattern (fun _ => .ok 200) t' := by
    apply followsPattern_of_replies
    simp [hreplies']
  have hstep : WholeResendStep defaultAlertEnv twoAlerts true ⟨t, errorResponse⟩ true :=
    ⟨.attempt hexec, _, hfirst, firstOrNone_refused⟩
  have hstep' : WholeResendStep defaultAlertEnv twoAlerts true ⟨t', okResponse⟩ false :=
    ⟨.attempt hexec', _, hsecond, firstOrNone_taken⟩
  have hrun := (Transition.Run.single hstep).snoc hstep'
  exact ⟨_, _, rfl, rfl, (batch_whole_iff defaultAlertEnv twoAlerts).2 _ _ hrun⟩

end TwoAlerts

end IntruderWatch.Proofs
