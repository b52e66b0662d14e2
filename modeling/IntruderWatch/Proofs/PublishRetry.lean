import IntruderWatch.Proofs.DispatcherWorker

/-!
# Publishing with retries

`_publish_with_retry` never raises. Its attempts end with the first one whose publish call does not
raise, and after a failure of the last one neither connection nor channel is set.
-/

namespace IntruderWatch.Proofs
open Py Interaction

section Retry

variable {Image : Type} {link link' : BrokerLink} {t : DispatchTrace Image}

/-! ### Publish calls of a trace -/

/-- Whether a publish call returned. -/
def publishResult? : DispatchEvent Image → Option Bool
  | ⟨.basicPublish _ _ _, .ok _⟩ => some true
  | ⟨.basicPublish _ _ _, .error _⟩ => some false
  | _ => none

def publishResults (t : DispatchTrace Image) : List Bool := t.filterMap publishResult?

def isFailureLog : DispatchEvent Image → Bool
  | ⟨.logPublishFailed _ _, _⟩ => true
  | _ => false

def failureLogs (t : DispatchTrace Image) : ℕ := t.countP isFailureLog

/-- A publish call has this body and goes to the alert queue. -/
def PublishesBody (body : Str) : DispatchEvent Image → Prop
  | ⟨.basicPublish _ routingKey b, _⟩ => routingKey = alertQueue ∧ b = body
  | _ => True

lemma publishResults_append (t₁ t₂ : DispatchTrace Image) :
    publishResults (t₁ ++ t₂) = publishResults t₁ ++ publishResults t₂ :=
  List.filterMap_append

lemma failureLogs_append (t₁ t₂ : DispatchTrace Image) :
    failureLogs (t₁ ++ t₂) = failureLogs t₁ + failureLogs t₂ :=
  List.countP_append

/-- Connecting and closing neither publish nor log. -/
structure Quiescent (body : Str) (t : DispatchTrace Image) : Prop where
  results : publishResults t = []
  logs : failureLogs t = 0
  bodies : ∀ c ∈ t, PublishesBody body c

lemma quiescent_of_link (body : Str) (h : ∀ c ∈ t, IsLinkCall c.1) : Quiescent body t := by
  constructor
  · rw [publishResults, List.filterMap_eq_nil_iff]
    rintro ⟨op, answer⟩ hc
    cases op with
    | basicPublish => exact (h _ hc).elim
    | _ => rfl
  · rw [failureLogs, List.countP_eq_zero]
    rintro ⟨op, answer⟩ hc hlog
    cases op with
    | logPublishFailed => exact h _ hc
    | _ => cases hlog
  · rintro ⟨op, answer⟩ hc
    cases op with
    | basicPublish => exact (h _ hc).elim
    | _ => trivial

/-- The last call is a publish that returned, the publishes before it raised. -/
def EndsInPublish (t : DispatchTrace Image) : Prop :=
  ∃ t₁ c, t = t₁ ++ [c] ∧ publishResult? c = some true ∧ ∀ b ∈ publishResults t₁, b = false

def NonePublished (t : DispatchTrace Image) : Prop := ∀ b ∈ publishResults t, b = false

lemma NonePublished.append {t₁ t₂ : DispatchTrace Image} (h₁ : NonePublished t₁)
    (h₂ : NonePublished t₂) : NonePublished (t₁ ++ t₂) := by
  intro b hb
  rw [publishResults_append, List.mem_append] at hb
  exact hb.elim (h₁ b) (h₂ b)

lemma EndsInPublish.append {t₁ t₂ : DispatchTrace Image} (h₁ : NonePublished t₁)
    (h₂ : EndsInPublish t₂) : EndsInPublish (t₁ ++ t₂) := by
  obtain ⟨t₃, c, rfl, hc, h₃⟩ := h₂
  exact ⟨t₁ ++ t₃, c, (List.append_assoc _ _ _).symm, hc, h₁.append h₃⟩

/-! ### One attempt -/

/-- The calls of one attempt, or of the cleanup after it: `n` lines are logged. -/
structure AttemptCalls (body : Str) (n : ℕ) (t : DispatchTrace Image) : Prop where
  bodies : ∀ c ∈ t, PublishesBody body c
  logs : failureLogs t = n
  results : (publishResults t).length ≤ 1

lemma Quiescent.nonePublished {body : Str} (h : Quiescent body t) : NonePublished t := by
  intro b hb
  rw [h.results] at hb
  cases hb

/-- An attempt that returns ends with its publish call; one that raises has made at most one. -/
lemma publishOnce_exec {body : Str} {r : Except Exn Unit}
    (h : Exec (publishOnce body) link t r link') :
    AttemptCalls body 0 t ∧ ((r = .ok () ∧ EndsInPublish t) ∨ (∃ e, r = .error e) ∧ NonePublished t) := by
  unfold publishOnce at h
  rcases exec_bind.mp h with ⟨e, hensure, rfl⟩ | ⟨t₁, t₂, _, link₁, rfl, hensure, h⟩
  · have hquiet := quiescent_of_link body (uses_ensureChannel.calls _ _ _ _ hensure)
    refine ⟨⟨hquiet.bodies, hquiet.logs, ?_⟩, Or.inr ⟨⟨e, rfl⟩, hquiet.nonePublished⟩⟩
    rw [hquiet.results]
    exact Nat.zero_le 1
  have hquiet := quiescent_of_link body (uses_ensureChannel.calls _ _ _ _ hensure)
  rw [exec_get_bind] at h
  cases hchannel : link₁.channel with
  | none =>
    rw [hchannel] at h
    obtain ⟨rfl, rfl, -⟩ := exec_throw.mp h
    rw [List.append_nil]
    refine ⟨⟨hquiet.bodies, hquiet.logs, ?_⟩, Or.inr ⟨⟨_, rfl⟩, hquiet.nonePublished⟩⟩
    rw [hquiet.results]
    exact Nat.zero_le 1
  | some channel =>
    rw [hchannel] at h
    obtain ⟨answer, t₃, rfl, h₃⟩ := exec_perform_bind.mp h
    obtain ⟨rfl, rfl, -⟩ := exec_evaluate.mp h₃
    have hcalls : AttemptCalls body 0 (t₁ ++ [⟨.basicPublish channel alertQueue body, r⟩]) := by
      constructor
      · intro c hc
        rcases List.mem_append.mp hc with hc | hc
        · exact hquiet.bodies c hc
        · obtain rfl := List.mem_singleton.mp hc
          exact ⟨rfl, rfl⟩
      · rw [failureLogs_append, hquiet.logs]
        rfl
      · rw [publishResults_append, hquiet.results, List.nil_append]
        exact List.length_filterMap_le _ _
    refine ⟨hcalls, ?_⟩
    cases r with
    | ok u => exact Or.inl ⟨rfl, t₁, _, rfl, rfl, hquiet.nonePublished⟩
    | error e =>
      refine Or.inr ⟨⟨e, rfl⟩, hquiet.nonePublished.append ?_⟩
      intro b hb
      exact List.mem_singleton.mp hb

/-! ### The cleanup -/

/-- A statement that swallows every exception and leaves the link alone. -/
lemma swallow_exec {x : DispatchProc Image Unit} {r : Except Exn Unit}
    (hx : ∀ t r s, Exec x link t r s → s = link)
    (h : Exec (tryCatch x (fun _ => pure ())) link t r link') : r = .ok () ∧ link' = link := by
  rcases exec_tryCatch.mp h with ⟨u, hbody, rfl⟩ | ⟨t₁, t₂, e, s₁, rfl, hbody, hpass⟩
  · exact ⟨rfl, hx _ _ _ hbody⟩
  · obtain ⟨-, rfl, rfl⟩ := exec_pure.mp hpass
    exact ⟨rfl, hx _ _ _ hbody⟩

lemma closeQuietly_exec {handle : Option ℕ} {isClosed : ℕ → DispatchProc Image Bool}
    {close : ℕ → DispatchProc Image (Except Exn Unit)} {r : Except Exn Unit}
    (hclosed : ∀ n s t r s', Exec (isClosed n) s t r s' → s' = s)
    (hclose : ∀ n s t r s', Exec (close n) s t r s' → s' = s)
    (h : Exec (closeQuietly handle isClosed close) link t r link') : r = .ok () ∧ link' = link := by
  refine swallow_exec ?_ h
  intro t r s htry
  cases handle with
  | none => exact (exec_pure.mp htry).2.2
  | some n =>
    rcases exec_bind.mp htry with ⟨e, h₁, -⟩ | ⟨t₁, t₂, closed, s₁, rfl, h₁, h₂⟩
    · exact hclosed _ _ _ _ _ h₁
    obtain rfl := hclosed _ _ _ _ _ h₁
    split_ifs at h₂
    · rcases exec_bind.mp h₂ with ⟨e, h₃, -⟩ | ⟨t₃, t₄, answer, s₂, rfl, h₃, h₄⟩
      · exact hclose _ _ _ _ _ h₃
      · obtain rfl := hclose _ _ _ _ _ h₃
        exact (exec_evaluate.mp h₄).2.2
    · exact (exec_pure.mp h₂).2.2

lemma steady_perform {op : DispatchCall Image} {s s' : BrokerLink} {r : Except Exn (DispatchAns op)}
    (h : Exec (perform op : DispatchProc Image (DispatchAns op)) s t r s') : s' = s := by
  obtain ⟨a, -, -, hs⟩ := exec_perform.mp h
  exact hs

/-- Whatever closing does, afterwards neither channel nor connection is set. -/
lemma resetChannel_exec {r : Except Exn Unit} (h : Exec resetChannel link t r link') :
    r = .ok () ∧ link' = ⟨none, none⟩ := by
  unfold resetChannel at h
  rw [exec_get_bind] at h
  rcases exec_bind.mp h with ⟨e, h₁, -⟩ | ⟨t₁, t₂, _, link₁, rfl, -, h₂⟩
  · cases (closeQuietly_exec (fun _ _ _ _ _ => steady_perform) (fun _ _ _ _ _ => steady_perform) h₁).1
  rcases exec_bind.mp h₂ with ⟨e, h₃, -⟩ | ⟨t₃, t₄, _, link₂, rfl, -, h₄⟩
  · cases (closeQuietly_exec (fun _ _ _ _ _ => steady_perform) (fun _ _ _ _ _ => steady_perform) h₃).1
  obtain ⟨-, hr, hlink⟩ := exec_modify.mp h₄
  exact ⟨hr, hlink⟩

/-! ### The loop -/

/-- How the loop over `left` attempts ends. -/
inductive LoopResult (left : ℕ) (t : DispatchTrace Image) : Bool → BrokerLink → Prop
  | published {link : BrokerLink} : EndsInPublish t → failureLogs t < left →
      LoopResult left t true link
  | exhausted {link : BrokerLink} : NonePublished t → failureLogs t = left →
      (0 < left → link = ⟨none, none⟩) → LoopResult left t false link

/-- A failed attempt with its cleanup, before the next one. -/
structure FailedRound (body : Str) (t : DispatchTrace Image) : Prop where
  bodies : ∀ c ∈ t, PublishesBody body c
  logs : failureLogs t = 1
  results : (publishResults t).length ≤ 1
  nonePublished : NonePublished t

lemma failedRound {body : Str} {t₁ t₂ : DispatchTrace Image} (attempt : ℕ) (e : Exn)
    (answer : Unit) (h₁ : AttemptCalls body 0 t₁) (hnone : NonePublished t₁)
    (h₂ : ∀ c ∈ t₂, IsLinkCall c.1) :
    FailedRound body (t₁ ++ ⟨.logPublishFailed attempt e, answer⟩ :: t₂) := by
  have hquiet := quiescent_of_link body h₂
  have hlog : publishResults (⟨.logPublishFailed attempt e, answer⟩ :: t₂) = [] := hquiet.results
  constructor
  · intro c hc
    rcases List.mem_append.mp hc with hc | hc
    · exact h₁.bodies c hc
    · rcases List.mem_cons.mp hc with rfl | hc
      · trivial
      · exact hquiet.bodies c hc
  · rw [failureLogs_append, h₁.logs, failureLogs, List.countP_cons]
    change 0 + (failureLogs t₂ + 1) = 1
    rw [hquiet.logs]
  · rw [publishResults_append, hlog, List.append_nil]
    exact h₁.results
  · apply hnone.append
    intro b hb
    rw [hlog] at hb
    cases hb

lemma LoopResult.after {body : Str} {left : ℕ} {t₁ t₂ : DispatchTrace Image} {b : Bool}
    (h₁ : FailedRound body t₁) (h₂ : LoopResult left t₂ b link')
    (hunset : left = 0 → link' = ⟨none, none⟩) : LoopResult (left + 1) (t₁ ++ t₂) b link' := by
  have hlogs : failureLogs (t₁ ++ t₂) = failureLogs t₂ + 1 := by
    rw [failureLogs_append, h₁.logs, add_comm]
  cases h₂ with
  | published hends hlt =>
    exact .published (hends.append h₁.nonePublished) (by omega)
  | exhausted hnone heq hlink =>
    refine .exhausted (h₁.nonePublished.append hnone) (by omega) (fun _ => ?_)
    rcases Nat.eq_zero_or_pos left with hzero | hpos
    · exact hunset hzero
    · exact hlink hpos

/-- What a loop over `left` attempts does. -/
structure LoopCalls (body : Str) (left : ℕ) (t : DispatchTrace Image) (r : Except Exn Bool)
    (link' : BrokerLink) : Prop where
  bodies : ∀ c ∈ t, PublishesBody body c
  results : (publishResults t).length ≤ left
  ends : ∃ b, r = .ok b ∧ LoopResult left t b link'

lemma LoopCalls.after {body : Str} {left : ℕ} {t₁ t₂ : DispatchTrace Image} {r : Except Exn Bool}
    (h₁ : FailedRound body t₁) (h₂ : LoopCalls body left t₂ r link')
    (hunset : left = 0 → link' = ⟨none, none⟩) : LoopCalls body (left + 1) (t₁ ++ t₂) r link' := by
  obtain ⟨b, hr, hends⟩ := h₂.ends
  refine ⟨?_, ?_, b, hr, hends.after h₁ hunset⟩
  · intro c hc
    exact (List.mem_append.mp hc).elim (h₁.bodies c) (h₂.bodies c)
  · have hresults₁ := h₁.results
    have hresults₂ := h₂.results
    rw [publishResults_append, List.length_append]
    omega

lemma publishLoop_exec {body : Str} {attempt left : ℕ} {r : Except Exn Bool}
    (h : Exec (publishLoop body attempt left) link t r link') : LoopCalls body left t r link' := by
  induction left generalizing attempt link t with
  | zero =>
    obtain ⟨rfl, rfl, -⟩ := exec_pure.mp h
    exact ⟨by simp, le_rfl, false, rfl, .exhausted (by simp [NonePublished, publishResults]) rfl (by simp)⟩
  | succ left ih =>
    unfold publishLoop at h
    rcases exec_tryCatch.mp h with ⟨b, hbody, rfl⟩ | ⟨t₁, t', e, link₁, rfl, hbody, hrest⟩
    · rcases exec_bind.mp hbody with ⟨e, -, he⟩ | ⟨t₁, t₂, _, link₁, rfl, hpublish, hreturn⟩
      · cases he
      obtain ⟨rfl, hb, rfl⟩ := exec_pure.mp hreturn
      obtain rfl := Except.ok.inj hb
      rw [List.append_nil]
      obtain ⟨hcalls, ⟨-, hends⟩ | ⟨⟨e, he⟩, -⟩⟩ := publishOnce_exec hpublish
      · refine ⟨hcalls.bodies, hcalls.results.trans (by omega), true, rfl, .published hends ?_⟩
        rw [hcalls.logs]
        exact Nat.succ_pos left
      · cases he
    · have hattempt : AttemptCalls body 0 t₁ ∧ NonePublished t₁ := by
        rcases exec_bind.mp hbody with ⟨e, hpublish, -⟩ | ⟨t₂, t₃, _, link₂, rfl, -, hreturn⟩
        · obtain ⟨hcalls, ⟨he, -⟩ | ⟨-, hnone⟩⟩ := publishOnce_exec hpublish
          · cases he
          · exact ⟨hcalls, hnone⟩
        · cases (exec_pure.mp hreturn).2.1
      obtain ⟨answer, t₂, rfl, hreset⟩ := exec_perform_bind.mp hrest
      rcases exec_bind.mp hreset with ⟨e, h₃, -⟩ | ⟨t₃, t₄, _, link₂, rfl, h₃, h₄⟩
      · cases (resetChannel_exec h₃).1
      obtain ⟨-, rfl⟩ := resetChannel_exec h₃
      have hclose : ∀ c ∈ t₃, IsLinkCall c.1 := uses_resetChannel.calls _ _ _ _ h₃
      split_ifs at h₄ with hleft
      · obtain ⟨pause, t₅, rfl, h₅⟩ := exec_perform_bind.mp h₄
        have hround : FailedRound body (t₁ ++ ⟨.logPublishFailed attempt e, answer⟩ ::
            (t₃ ++ [⟨.sleep 500, pause⟩])) := by
          apply failedRound attempt e answer hattempt.1 hattempt.2
          intro c hc
          rcases List.mem_append.mp hc with hc | hc
          · exact hclose c hc
          · obtain rfl := List.mem_singleton.mp hc
            trivial
        have hafter := (ih h₅).after hround (fun hzero => absurd hleft (by omega))
        simpa using hafter
      · have hround := failedRound attempt e answer hattempt.1 hattempt.2 hclose
        have hloop := ih h₄
        have hunset : left = 0 → link' = ⟨none, none⟩ := by
          rintro rfl
          exact (exec_pure.mp h₄).2.2
        have hafter := hloop.after hround hunset
        simpa using hafter

/-- What is asked of a publish with `retries` attempts. -/
structure PublishExact (body : Str) (retries : ℕ) (t : DispatchTrace Image) (r : Except Exn Bool)
    (link' : BrokerLink) : Prop where
  returns : ∃ success, r = .ok success
  bodies : ∀ c ∈ t, PublishesBody body c
  attempts : (publishResults t).length ≤ retries
  stops : ∀ t₁ c t₂, t = t₁ ++ c :: t₂ → publishResult? c = some true → t₂ = []
  true_iff : r = .ok true ↔ true ∈ publishResults t
  once : (publishResults t).count true ≤ 1
  exhausted : r = .ok false → failureLogs t = retries
  unset : r = .ok false → 0 < retries → link' = ⟨none, none⟩

lemma mem_publishResults {c : DispatchEvent Image} {b : Bool} (hc : c ∈ t)
    (hb : publishResult? c = some b) : b ∈ publishResults t :=
  List.mem_filterMap.mpr ⟨c, hc, hb⟩

lemma EndsInPublish.stops {t₁ t₂ : DispatchTrace Image} {c : DispatchEvent Image}
    (h : EndsInPublish (t₁ ++ c :: t₂)) (hc : publishResult? c = some true) : t₂ = [] := by
  obtain ⟨t₃, z, ht, -, hnone⟩ := h
  rcases List.eq_nil_or_concat t₂ with rfl | ⟨t₄, y, rfl⟩
  · rfl
  · have hsplit : (t₁ ++ c :: t₄) ++ [y] = t₃ ++ [z] := by
      rw [← ht, List.concat_eq_append, List.append_assoc, List.cons_append]
    obtain ⟨rfl, -⟩ := List.append_inj' hsplit rfl
    have hmem : c ∈ t₁ ++ c :: t₄ := List.mem_append_right t₁ List.mem_cons_self
    cases hnone true (mem_publishResults hmem hc)

lemma EndsInPublish.results (h : EndsInPublish t) :
    true ∈ publishResults t ∧ (publishResults t).count true = 1 := by
  obtain ⟨t₁, c, rfl, hc, hnone⟩ := h
  have hlast : publishResults [c] = [true] := by
    rw [publishResults, List.filterMap_cons_some hc, List.filterMap_nil]
  have hcount : (publishResults t₁).count true = 0 := by
    rw [List.count_eq_zero]
    intro hmem
    cases hnone true hmem
  rw [publishResults_append, hlast]
  constructor
  · exact List.mem_append_right _ List.mem_cons_self
  · rw [List.count_append, hcount]
    rfl

/-- For every payload that can be serialised, every number of attempts and every outcome of the calls,
publishing with retries is exact. -/
theorem publish_exact {P : Type} {dumps : P → Except Exn Str} {payload : P} {body : Str}
    (hbody : dumps payload = .ok body) {retries : ℕ} {r : Except Exn Bool}
    (h : Exec (publishPayload dumps payload retries) link t r link') :
    PublishExact body retries t r link' := by
  unfold publishPayload at h
  rw [hbody] at h
  rcases exec_evaluate_bind.mp h with ⟨e, he, -⟩ | ⟨b, hb, h⟩
  · cases he
  obtain rfl := Except.ok.inj hb
  obtain ⟨hbodies, hresults, success, rfl, hloop⟩ := publishLoop_exec h
  cases hloop with
  | published hends hlogs =>
    obtain ⟨hmem, hcount⟩ := hends.results
    refine ⟨⟨true, rfl⟩, hbodies, hresults, ?_, iff_of_true rfl hmem, hcount.le, ?_, ?_⟩
    · rintro t₁ c t₂ rfl hc
      exact hends.stops hc
    · intro hfalse
      cases hfalse
    · intro hfalse
      cases hfalse
  | exhausted hnone hlogs hlink =>
    have hnot : true ∉ publishResults t := by
      intro hmem
      cases hnone true hmem
    refine ⟨⟨false, rfl⟩, hbodies, hresults, ?_, iff_of_false (by simp) hnot, ?_, fun _ => hlogs, fun _ => hlink⟩
    · rintro t₁ c t₂ rfl hc
      exact absurd (mem_publishResults (List.mem_append_right t₁ List.mem_cons_self) hc) hnot
    · rw [List.count_eq_zero.mpr hnot]
      exact Nat.zero_le 1

end Retry

/-! ### The test of the repository -/

section Reconnect

/-- The first attempt publishes on a channel that is broken, the second one on a new link. -/
def reconnectTrace : DispatchTrace Unit :=
  [⟨.connectionIsClosed 0, false⟩, ⟨.channelIsClosed 0, false⟩,
    ⟨.basicPublish 0 alertQueue (lit "1"), Except.error (Exn.foreign "Broken pipe")⟩,
    ⟨.logPublishFailed 1 (.foreign "Broken pipe"), ()⟩, ⟨.channelIsClosed 0, true⟩,
    ⟨.connectionIsClosed 0, true⟩, ⟨.sleep 500, ()⟩, ⟨.blockingConnection, Except.ok 1⟩,
    ⟨.openChannel 1, Except.ok 1⟩, ⟨.queueDeclare 1 alertQueue, Except.ok ()⟩,
    ⟨.basicPublish 1 alertQueue (lit "1"), Except.ok ()⟩]

lemma reconnect_exec : Exec (publishPayload (fun p : Str => .ok p) (lit "1") 2) ⟨some 0, some 0⟩
    reconnectTrace (.ok true) ⟨some 1, some 1⟩ :=
  .call <| .call <| .call <| .call <| .call <| .call <| .call <| .call <| .call <| .call <| .call <| .ret _

/-- Publishing succeeds after one reconnection. -/
theorem publish_exact_reconnect :
    PublishExact (lit "1") 2 reconnectTrace (.ok true) ⟨some 1, some 1⟩ :=
  publish_exact rfl reconnect_exec

end Reconnect

end IntruderWatch.Proofs
