import IntruderWatch.DispatcherLinks
import IntruderWatch.Library.Worlds
import IntruderWatch.Proofs.DispatcherWorker

/-!
# The connections of the alert dispatcher

`connect_rabbitmq` forgets the connection on which it cannot open a channel or declare the queue, and
`_ensure_channel` the one whose channel alone was closed. Where neither happens, and a connection
that cannot be closed is closed already, at most one connection is open, the one that is stored.
-/

namespace IntruderWatch.Proofs
open Py Interaction

section Programs

variable {Image : Type}

/-- No connection but this one is open. -/
def OnlyOpen (o : Option ℕ) (net : Network) : Prop :=
  ∀ n, net.connectionOpen n = true → o = some n

/-- An open connection is stored with its channel. -/
def Stored (link : BrokerLink) (net : Network) : Prop :=
  ∀ n, net.connectionOpen n = true → link = ⟨some n, some n⟩

def AtMostOne (net : Network) : Prop :=
  ∀ m n, net.connectionOpen m = true → net.connectionOpen n = true → m = n

/-- No connection is left without its channel. -/
def ChannelsUp (net : Network) : Prop :=
  ∀ n, net.connectionOpen n = true → net.channelOpen n = true

/-- The error of a call takes the connection with it, and a publish finds no connection without its
channel. -/
def CallTidy : (op : DispatchCall Image) × DispatchAns op → Network → Prop
  | ⟨.openChannel n, .error _⟩, net => net.connectionOpen n = false
  | ⟨.queueDeclare n _, .error _⟩, net => net.connectionOpen n = false
  | ⟨.closeConnection n, .error _⟩, net => net.connectionOpen n = false
  | ⟨.imwrite _ _ _, .ok _⟩, net => ChannelsUp net
  | _, _ => True

/-- At most one connection is open; a dial finds none, and a publish the one it publishes on. -/
def CallSafe (net : Network) : (op : DispatchCall Image) × DispatchAns op → Network → Prop
  | ⟨.blockingConnection, _⟩, net' => AtMostOne net' ∧ OnlyOpen none net
  | ⟨.basicPublish n _ _, _⟩, net' => AtMostOne net' ∧ OnlyOpen (some n) net
  | _, net' => AtMostOne net'

def TidyStep (net : Network) (c : (op : DispatchCall Image) × DispatchAns op) (net' : Network) :
    Prop :=
  LinkStep net c net' ∧ CallTidy c net'

/-- What holds at the end of a statement that starts in `link` and `net`. -/
abbrev Ends {α : Type} (x : DispatchProc Image α) (Q : Except Exn α → BrokerLink → Network → Prop)
    (link : BrokerLink) (net : Network) : Prop :=
  Proc.wp TidyStep CallSafe x Q link net

/-! ### The network -/

section Network

variable {net net' : Network} {o : Option ℕ} {n : ℕ}

lemma OnlyOpen.atMostOne (h : OnlyOpen o net) : AtMostOne net := by
  intro m n hm hn
  exact Option.some.inj ((h m hm).symm.trans (h n hn))

lemma Stored.atMostOne {link : BrokerLink} (h : Stored link net) : AtMostOne net := by
  intro m n hm hn
  have hlink := (h m hm).symm.trans (h n hn)
  exact Option.some.inj (congrArg BrokerLink.connection hlink)

lemma OnlyOpen.stored (h : OnlyOpen none net) (link : BrokerLink) : Stored link net := by
  intro n hn
  cases h n hn

lemma OnlyOpen.channelsUp (h : OnlyOpen none net) : ChannelsUp net := by
  intro n hn
  cases h n hn

lemma closings_connectionOpen (h : net.Closings net') (hn : net'.connectionOpen n = true) :
    net.connectionOpen n = true := by
  induction h with
  | none => exact hn
  | channel m _ ih => exact ih hn
  | connection m _ ih =>
    apply ih
    by_cases hm : n = m
    · subst hm
      simp [Network.closeConnection] at hn
    · simpa [Network.closeConnection, hm] using hn

lemma Stored.closings {link : BrokerLink} (h : Stored link net) (hc : net.Closings net') :
    Stored link net' :=
  fun n hn => h n (closings_connectionOpen hc hn)

def IsNoDial : DispatchCall Image → Prop
  | .blockingConnection => False
  | _ => True

/-- Only a dial opens a connection. -/
lemma connectionOpen_of_step {c : (op : DispatchCall Image) × DispatchAns op}
    (hstep : LinkStep net c net') (hdial : IsNoDial c.1) (hn : net'.connectionOpen n = true) :
    net.connectionOpen n = true := by
  cases hstep with
  | dialed => exact hdial.elim
  | failed _ hclosings | meanwhile _ hclosings => exact closings_connectionOpen hclosings hn
  | connectionClosed => exact closings_connectionOpen (.connection _ .none) hn
  | _ => exact hn

lemma OnlyOpen.step {c : (op : DispatchCall Image) × DispatchAns op} (h : OnlyOpen o net)
    (hstep : TidyStep net c net') (hdial : IsNoDial c.1) : OnlyOpen o net' :=
  fun n hn => h n (connectionOpen_of_step hstep.1 hdial hn)

lemma Stored.step {link : BrokerLink} {c : (op : DispatchCall Image) × DispatchAns op}
    (h : Stored link net) (hstep : TidyStep net c net') (hdial : IsNoDial c.1) : Stored link net' :=
  fun n hn => h n (connectionOpen_of_step hstep.1 hdial hn)

/-- Without its one connection nothing is open. -/
lemma OnlyOpen.closed (h : OnlyOpen (some n) net) (hn : net.connectionOpen n = false) :
    OnlyOpen none net := by
  intro m hm
  obtain rfl := Option.some.inj (h m hm)
  rw [hn] at hm
  cases hm

lemma OnlyOpen.dial (h : OnlyOpen none net) : OnlyOpen (some net.dialed) net.dial := by
  intro n hn
  by_cases hdialed : n = net.dialed
  · rw [hdialed]
  · have hopen : net.connectionOpen n = true := by
      simpa [Network.dial, Function.update_of_ne hdialed] using hn
    cases h n hopen

lemma closeConnection_closed (net : Network) (n : ℕ) :
    (net.closeConnection n).connectionOpen n = false := by
  simp [Network.closeConnection]

end Network

/-! ### Connecting -/

section Connect

variable {net net' : Network} {n : ℕ} {link : BrokerLink}

lemma channel_step {r : Except Exn ℕ} (h : OnlyOpen (some n) net)
    (hstep : TidyStep net (⟨.openChannel n, r⟩ : (op : DispatchCall Image) × DispatchAns op) net') :
    (r = .ok n ∧ OnlyOpen (some n) net') ∨ ∃ e, r = .error e ∧ OnlyOpen none net' := by
  have h' := h.step hstep trivial
  obtain ⟨hlink, htidy⟩ := hstep
  cases r with
  | ok m =>
    cases hlink with
    | channelOpened => exact Or.inl ⟨rfl, h'⟩
    | failed hfails => cases hfails
    | meanwhile hbetween => exact hbetween.elim
  | error e => exact Or.inr ⟨e, rfl, h'.closed htidy⟩

lemma declare_step {queue : Str} {r : Except Exn Unit} (h : OnlyOpen (some n) net)
    (hstep : TidyStep net (⟨.queueDeclare n queue, r⟩ : (op : DispatchCall Image) × DispatchAns op) net') :
    (r = .ok () ∧ OnlyOpen (some n) net') ∨ ∃ e, r = .error e ∧ OnlyOpen none net' := by
  have h' := h.step hstep trivial
  cases r with
  | ok u => exact Or.inl ⟨rfl, h'⟩
  | error e => exact Or.inr ⟨e, rfl, h'.closed hstep.2⟩

/-- The result is a connection with its channel, the only one that is open, or nothing is open. -/
def Linked (r : Except Exn (ℕ × ℕ)) (net : Network) : Prop :=
  match r with
  | .ok (connection, channel) => channel = connection ∧ OnlyOpen (some connection) net
  | .error _ => OnlyOpen none net

lemma declareQueues_ends (queueNames : List Str) (h : OnlyOpen (some n) net) :
    Ends (declareQueues n queueNames : DispatchProc Image Unit) (fun r _ net =>
      match r with
      | .ok _ => OnlyOpen (some n) net
      | .error _ => OnlyOpen none net) link net := by
  induction queueNames generalizing net with
  | nil => exact h
  | cons queue queueNames ih =>
    apply Proc.wp_perform_bind.mpr
    intro r net' hstep
    rcases declare_step h hstep with ⟨rfl, h'⟩ | ⟨e, rfl, h'⟩
    · exact ⟨h'.atMostOne, ih h'⟩
    · exact ⟨h'.atMostOne, h'⟩

lemma openLink_ends (queueNames : List Str) (h : OnlyOpen none net) :
    Ends (openLink queueNames : DispatchProc Image (ℕ × ℕ)) (fun r _ net => Linked r net) link net := by
  apply Proc.wp_perform_bind.mpr
  rintro r net' ⟨hlink, -⟩
  cases hlink with
  | notDialed => exact ⟨⟨h.atMostOne, h⟩, h⟩
  | failed hfails => exact hfails.elim
  | meanwhile hbetween => exact hbetween.elim
  | dialed =>
    refine ⟨⟨h.dial.atMostOne, h⟩, ?_⟩
    apply Proc.wp_perform_bind.mpr
    intro r net' hstep
    rcases channel_step h.dial hstep with ⟨rfl, h'⟩ | ⟨e, rfl, h'⟩
    · refine ⟨h'.atMostOne, ?_⟩
      apply Proc.wp_evaluate_bind.mpr
      apply Proc.wp_bind.mpr
      apply Proc.wp_mono (declareQueues_ends queueNames h')
      intro r link net hends
      cases r with
      | ok u => exact ⟨rfl, hends⟩
      | error e => exact hends
    · exact ⟨h'.atMostOne, h'⟩

/-- Each attempt finds nothing open, and so does the caller of a failure. -/
lemma connectLoop_ends (queueNames : List Str) (delay left : ℕ) (h : OnlyOpen none net) :
    Ends (connectLoop queueNames delay left : DispatchProc Image (ℕ × ℕ))
      (fun r _ net => Linked r net) link net := by
  induction left generalizing net link with
  | zero => exact h
  | succ left ih =>
    unfold connectLoop
    apply Proc.wp_tryCatch.mpr
    apply Proc.wp_mono (openLink_ends queueNames h)
    intro r link net hends
    cases r with
    | ok p => exact hends
    | error e =>
      dsimp only
      split_ifs with hready hleft
      · apply Proc.wp_perform_bind.mpr
        intro u net' hstep
        have h' := OnlyOpen.step hends hstep trivial
        exact ⟨h'.atMostOne, ih h'⟩
      · exact ih hends
      · exact hends

end Connect

/-! ### Publishing -/

section Publish

variable {net : Network} {link : BrokerLink}

lemma isClosed_step {net' : Network} {n : ℕ} {r : Bool}
    (hstep : TidyStep net (⟨.connectionIsClosed n, r⟩ : (op : DispatchCall Image) × DispatchAns op) net') :
    r = !net.connectionOpen n ∧ net' = net := by
  cases hstep.1 with
  | connectionIsClosed => exact ⟨rfl, rfl⟩
  | failed hfails => exact hfails.elim
  | meanwhile hbetween => exact hbetween.elim

lemma channelIsClosed_step {net' : Network} {n : ℕ} {r : Bool}
    (hstep : TidyStep net (⟨.channelIsClosed n, r⟩ : (op : DispatchCall Image) × DispatchAns op) net') :
    r = !net.channelOpen n ∧ net' = net := by
  cases hstep.1 with
  | channelIsClosed => exact ⟨rfl, rfl⟩
  | failed hfails => exact hfails.elim
  | meanwhile hbetween => exact hbetween.elim

/-- Closing the channel may cost the connection as well. -/
lemma closeChannel_ends (h : Stored link net) :
    Ends (closeQuietly link.channel channelIsClosed closeChannel : DispatchProc Image Unit)
      (fun r link' net => r = .ok () ∧ link' = link ∧ Stored link net) link net := by
  unfold closeQuietly
  apply Proc.wp_tryCatch.mpr
  cases hchannel : link.channel with
  | none => exact ⟨rfl, rfl, h⟩
  | some n =>
    apply Proc.wp_perform_bind.mpr
    intro closed net' hstep
    obtain ⟨rfl, rfl⟩ := channelIsClosed_step hstep
    refine ⟨h.atMostOne, ?_⟩
    split_ifs
    · apply Proc.wp_perform_bind.mpr
      intro r net'' hstep
      have h' := h.step hstep trivial
      refine ⟨h'.atMostOne, ?_⟩
      cases r <;> exact ⟨rfl, rfl, h'⟩
    · exact ⟨rfl, rfl, h⟩

lemma close_step {net' : Network} {n : ℕ} {r : Except Exn Unit}
    (hstep : TidyStep net (⟨.closeConnection n, r⟩ : (op : DispatchCall Image) × DispatchAns op) net') :
    net'.connectionOpen n = false := by
  obtain ⟨hlink, htidy⟩ := hstep
  cases hlink with
  | connectionClosed => exact closeConnection_closed net n
  | failed hfails =>
    cases r with
    | ok u => cases hfails
    | error e => exact htidy
  | meanwhile hbetween => exact hbetween.elim

/-- After the connection has been closed nothing is open. -/
lemma closeConnection_ends (h : Stored link net) :
    Ends (closeQuietly link.connection connectionIsClosed closeConnection : DispatchProc Image Unit)
      (fun r link' net => r = .ok () ∧ link' = link ∧ OnlyOpen none net) link net := by
  have honly : OnlyOpen link.connection net := fun n hn => by rw [h n hn]
  unfold closeQuietly
  apply Proc.wp_tryCatch.mpr
  cases hconnection : link.connection with
  | none =>
    rw [hconnection] at honly
    exact ⟨rfl, rfl, honly⟩
  | some n =>
    rw [hconnection] at honly
    apply Proc.wp_perform_bind.mpr
    intro closed net' hstep
    obtain ⟨rfl, rfl⟩ := isClosed_step hstep
    refine ⟨h.atMostOne, ?_⟩
    split_ifs with hopen
    · apply Proc.wp_perform_bind.mpr
      intro r net'' hstep
      have hgone := (honly.step hstep trivial).closed (close_step hstep)
      refine ⟨hgone.atMostOne, ?_⟩
      cases r <;> exact ⟨rfl, rfl, hgone⟩
    · have hclosed : net'.connectionOpen n = false := by simpa using hopen
      exact ⟨rfl, rfl, honly.closed hclosed⟩

lemma resetChannel_ends (h : Stored link net) :
    Ends (resetChannel : DispatchProc Image Unit)
      (fun r link net => r = .ok () ∧ link = ⟨none, none⟩ ∧ OnlyOpen none net) link net := by
  unfold resetChannel
  apply Proc.wp_get_bind.mpr
  apply Proc.wp_bind.mpr
  apply Proc.wp_mono (closeChannel_ends h)
  rintro r link' net' ⟨rfl, rfl, h'⟩
  apply Proc.wp_bind.mpr
  apply Proc.wp_mono (closeConnection_ends h')
  rintro r link' net'' ⟨rfl, rfl, h''⟩
  exact ⟨rfl, rfl, h''⟩

/-- The condition of `_ensure_channel` holds only where nothing is open. -/
lemma linkDown_ends (h : Stored link net) (hup : ChannelsUp net) :
    Ends (linkDown : DispatchProc Image Bool) (fun r link' net' =>
      link' = link ∧ Stored link net' ∧ ∃ down, r = .ok down ∧ (down = true → OnlyOpen none net'))
      link net := by
  unfold linkDown
  apply Proc.wp_get_bind.mpr
  cases hconnection : link.connection with
  | none =>
    refine ⟨rfl, h, true, rfl, fun _ => ?_⟩
    intro n hn
    rw [h n hn] at hconnection
    cases hconnection
  | some n =>
    apply Proc.wp_perform_bind.mpr
    intro closed net' hstep
    obtain ⟨rfl, rfl⟩ := isClosed_step hstep
    refine ⟨h.atMostOne, ?_⟩
    split_ifs with hclosed
    · refine ⟨rfl, h, true, rfl, fun _ => ?_⟩
      intro m hm
      rw [h m hm] at hconnection
      obtain rfl := Option.some.inj hconnection
      rw [hm] at hclosed
      cases hclosed
    · have hopen : net'.connectionOpen n = true := by simpa using hclosed
      rw [h n hopen]
      apply Proc.wp_perform.mpr
      intro r net'' hstep
      obtain ⟨rfl, rfl⟩ := channelIsClosed_step hstep
      refine ⟨h.atMostOne, rfl, ?_, _, rfl, ?_⟩
      · rw [← h n hopen]
        exact h
      · rw [hup n hopen]
        intro hfalse
        cases hfalse

lemma ensureChannel_ends (h : Stored link net) (hup : ChannelsUp net) :
    Ends (ensureChannel : DispatchProc Image Unit) (fun _ link net => Stored link net) link net := by
  unfold ensureChannel
  apply Proc.wp_bind.mpr
  apply Proc.wp_mono (linkDown_ends h hup)
  rintro r link' net' ⟨rfl, h', down, rfl, hdown⟩
  dsimp only
  split_ifs with hisdown
  · apply Proc.wp_bind.mpr
    apply Proc.wp_mono (connectLoop_ends [alertQueue] 5000 15 (hdown hisdown))
    intro r link' net' hends
    cases r with
    | error e => exact OnlyOpen.stored hends link'
    | ok p =>
      obtain ⟨hchannel, honly⟩ := hends
      apply Proc.wp_modify.mpr
      intro n hn
      obtain rfl := Option.some.inj (honly n hn)
      rw [hchannel]
  · exact h'

lemma publishOnce_ends (body : Str) (h : Stored link net) (hup : ChannelsUp net) :
    Ends (publishOnce body : DispatchProc Image Unit) (fun _ link net => Stored link net) link net := by
  unfold publishOnce
  apply Proc.wp_bind.mpr
  apply Proc.wp_mono (ensureChannel_ends h hup)
  intro r link net h
  cases r with
  | error e => exact h
  | ok u =>
    apply Proc.wp_get_bind.mpr
    cases hchannel : link.channel with
    | none => exact h
    | some n =>
      have honly : OnlyOpen (some n) net := fun m hm => by rw [← hchannel, h m hm]
      apply Proc.wp_perform_bind.mpr
      intro r net' hstep
      have h' := h.step hstep trivial
      exact ⟨⟨h'.atMostOne, honly⟩, h'⟩

lemma publishLoop_ends (body : Str) (attempt left : ℕ) (h : Stored link net) (hup : ChannelsUp net) :
    Ends (publishLoop body attempt left : DispatchProc Image Bool) (fun _ link net => Stored link net)
      link net := by
  induction left generalizing attempt net link with
  | zero => exact h
  | succ left ih =>
    unfold publishLoop
    apply Proc.wp_tryCatch.mpr
    apply Proc.wp_bind.mpr
    apply Proc.wp_mono (publishOnce_ends body h hup)
    intro r link net h
    cases r with
    | ok u => exact h
    | error e =>
      apply Proc.wp_perform_bind.mpr
      intro u net' hstep
      have h' := h.step hstep trivial
      refine ⟨h'.atMostOne, ?_⟩
      apply Proc.wp_bind.mpr
      apply Proc.wp_mono (resetChannel_ends h')
      rintro r link' net ⟨rfl, rfl, hnone⟩
      dsimp only
      split_ifs with hleft
      · apply Proc.wp_perform_bind.mpr
        intro u net' hstep
        have hnone' := hnone.step hstep trivial
        exact ⟨hnone'.atMostOne, ih (attempt + 1) (hnone'.stored _) hnone'.channelsUp⟩
      · exact ih (attempt + 1) (hnone.stored _) hnone.channelsUp

end Publish

/-! ### The worker -/

section Worker

variable {net : Network} {link : BrokerLink} {quality : ℕ} {item : AlertItem Image}

lemma saveAndPublish_ends (h : Stored link net) :
    Ends (saveAndPublish quality item) (fun _ link net => Stored link net) link net := by
  unfold saveAndPublish
  apply Proc.wp_perform_bind.mpr
  intro made net₁ hmade
  have h₁ := h.step hmade trivial
  refine ⟨h₁.atMostOne, ?_⟩
  apply Proc.wp_evaluate_bind.mpr
  cases made with
  | error e => exact h₁
  | ok u =>
    apply Proc.wp_perform_bind.mpr
    intro written net₂ hwritten
    have h₂ := h₁.step hwritten trivial
    refine ⟨h₂.atMostOne, ?_⟩
    apply Proc.wp_evaluate_bind.mpr
    cases written with
    | error e => exact h₂
    | ok success =>
      apply Proc.wp_bind.mpr
      apply Proc.wp_mono (publishLoop_ends _ 1 3 h₂ hwritten.2)
      intro r link net h
      cases r <;> exact h

lemma taskDone_ends (h : Stored link net) :
    Ends (do evaluate (← taskDone) : DispatchProc Image Unit) (fun _ link net => Stored link net)
      link net := by
  apply Proc.wp_perform_bind.mpr
  intro answer net' hstep
  have h' := h.step hstep trivial
  exact ⟨h'.atMostOne, h'⟩

lemma workerBody_ends (h : Stored link net) :
    Ends (workerBody quality item) (fun _ link net => Stored link net) link net := by
  unfold workerBody
  apply Proc.wp_tryCatch.mpr
  apply Proc.wp_withFinally.mpr
  have htry : Ends (tryCatch (saveAndPublish quality item) (fun _ => pure ()))
      (fun _ link net => Stored link net) link net := by
    apply Proc.wp_tryCatch.mpr
    apply Proc.wp_mono (saveAndPublish_ends h)
    intro r link net h
    cases r <;> exact h
  apply Proc.wp_mono htry
  intro r link net h
  apply Proc.wp_mono (taskDone_ends h)
  intro r' link net h
  cases r'.bind (fun _ => r) with
  | ok u => exact h
  | error e =>
    apply Proc.wp_perform.mpr
    intro u net' hstep
    have h' := h.step hstep trivial
    exact ⟨h'.atMostOne, h'⟩

end Worker

end Programs

/-! ### The dispatcher -/

lemma CallSafe.atMostOne {Image : Type} {net net' : Network}
    {c : (op : DispatchCall Image) × DispatchAns op} (h : CallSafe net c net') : AtMostOne net' := by
  obtain ⟨op, answer⟩ := c
  cases op with
  | blockingConnection | basicPublish => exact h.1
  | _ => exact h

section Runs

variable {Image : Type} {queueSize : ℤ} {quality : ℕ} {s s' : LinkedDispatcher Image}
  {labels : List (LinkedLabel Image)} {label : LinkedLabel Image}

/-- A step whose call, if it is one, is tidy. -/
def TidyLabel : LinkedLabel Image → Network → Prop
  | .step (.called c), net => CallTidy c net
  | _, _ => True

/-- The steps that meet the condition. -/
def TidyLinkedStep (queueSize : ℤ) (quality : ℕ) (s : LinkedDispatcher Image)
    (label : LinkedLabel Image) (s' : LinkedDispatcher Image) : Prop :=
  LinkedStep queueSize quality s label s' ∧ TidyLabel label s'.network

/-- What is open is stored when the worker waits, and the rest of an item keeps it so. -/
def LinkKept (s : LinkedDispatcher Image) : Prop :=
  AtMostOne s.network ∧
  match s.dispatcher.worker with
  | .waiting link => Stored link s.network
  | .busy _ _ rest =>
    rest.Safe TidyStep CallSafe (fun p net => Stored p.2 net) s.network
  | .dead => True

/-- What a label says about the connections: nothing but calls touches them. -/
def LabelSafe (net : Network) : LinkedLabel Image → Network → Prop
  | .step (.called c), net' => CallSafe net c net'
  | _, _ => True

lemma linkKept_step (hs : LinkKept s) (h : TidyLinkedStep queueSize quality s label s') :
    LinkKept s' ∧ LabelSafe s.network label s'.network := by
  obtain ⟨hstep, htidy⟩ := h
  obtain ⟨hone, hworker⟩ := hs
  cases hstep with
  | closings hwaiting hclosings =>
    rw [hwaiting] at hworker
    have hstored := Stored.closings hworker hclosings
    refine ⟨⟨hstored.atMostOne, ?_⟩, trivial⟩
    dsimp only
    rw [hwaiting]
    exact hstored
  | call hdispatch hlink =>
    cases hdispatch with
    | call hbusy _ | taskDone hbusy =>
      rw [hbusy] at hworker
      obtain ⟨hsafe, hrest⟩ := Prog.Safe.answered hworker ⟨hlink, htidy⟩
      exact ⟨⟨hsafe.atMostOne, hrest⟩, hsafe⟩
  | other hcall hdispatch =>
    refine ⟨⟨hone, ?_⟩, ?_⟩
    · cases hdispatch with
      | submit | put | full | evict | empty | discard => exact hworker
      | take hwaiting _ =>
        rw [hwaiting] at hworker
        exact workerBody_ends hworker
      | call | taskDone => cases hcall
      | returned hbusy =>
        rw [hbusy] at hworker
        rename_i result link
        cases result with
        | ok u => exact hworker
        | error e => trivial
    · cases hdispatch with
      | call | taskDone => cases hcall
      | _ => trivial

end Runs

/-! ### A connection that is forgotten -/

section Leak

def leakError : Exn := .foreign "pika.exceptions.AMQPChannelError"

/-- The first publish cannot open a channel on connection `0`, and dials connection `1`. -/
lemma leak_run : ∃ (labels : List (LinkedLabel Unit)) (s : LinkedDispatcher Unit),
    LinkedRun 500 85 labels s ∧
    s.network.connectionOpen 0 = true ∧ s.network.connectionOpen 1 = true := by
  have hsubmit := Transition.Run.single (show LinkedStep 500 85 (LinkedDispatcher.start Unit)
    (.step (.submit diskItem)) _ from .other rfl (.submit rfl))
  have hput := hsubmit.snoc (show LinkedStep 500 85 _ (.step (.put diskItem)) _ from
    .other rfl (.put rfl (by simp [queueFull, LinkedDispatcher.start, AlertDispatcher.start])))
  have htake := hput.snoc (show LinkedStep 500 85 _ (.step (.take diskItem)) _ from
    .other rfl (.take rfl rfl))
  have hmakedirs := htake.snoc (show LinkedStep 500 85 _
    (.step (.called ⟨.makedirs (dirname diskItem.filename), Except.ok ()⟩)) _ from
    .call (.call rfl (by simp)) (.meanwhile trivial .none))
  have himwrite := hmakedirs.snoc (show LinkedStep 500 85 _
    (.step (.called ⟨.imwrite diskItem.filename () 85, Except.ok true⟩)) _ from
    .call (.call rfl (by simp)) (.meanwhile trivial .none))
  have hdial := himwrite.snoc (show LinkedStep 500 85 _
    (.step (.called ⟨.blockingConnection, Except.ok 0⟩)) _ from .call (.call rfl (by simp)) .dialed)
  have hchannel := hdial.snoc (show LinkedStep 500 85 _
    (.step (.called ⟨.openChannel 0, Except.error leakError⟩)) _ from
    .call (.call rfl (by simp)) (.failed rfl .none))
  have hlog := hchannel.snoc (show LinkedStep 500 85 _
    (.step (.called ⟨.logPublishFailed 1 leakError, ()⟩)) _ from .call (.call rfl (by simp)) .logged)
  have hsleep := hlog.snoc (show LinkedStep 500 85 _ (.step (.called ⟨.sleep 500, ()⟩)) _ from
    .call (.call rfl (by simp)) (.meanwhile trivial .none))
  have hredial := hsleep.snoc (show LinkedStep 500 85 _
    (.step (.called ⟨.blockingConnection, Except.ok 1⟩)) _ from .call (.call rfl (by simp)) .dialed)
  exact ⟨_, _, hredial, rfl, rfl⟩

/-- A channel that cannot be opened costs a connection. -/
theorem refusedChannel_leaks : ¬ ∀ (labels : List (LinkedLabel Unit)) (s : LinkedDispatcher Unit),
    LinkedRun 500 85 labels s → AtMostOne s.network := by
  intro hclaim
  obtain ⟨labels, s, hrun, hfirst, hsecond⟩ := leak_run
  exact absurd (hclaim labels s hrun 0 1 hfirst hsecond) (by decide)

end Leak

/-! ### Runs that keep their connection -/

section Kept

variable {Image : Type} {queueSize : ℤ} {quality : ℕ} {s : LinkedDispatcher Image}
  {labels : List (LinkedLabel Image)}

/-- In every run whose steps are tidy at most one connection is open, namely the stored one when the
worker waits; a dial finds none open, and a publish only the one it publishes on. -/
theorem no_connection_leaked
    (h : Transition.Run (TidyLinkedStep queueSize quality) (LinkedDispatcher.start Image) labels s) :
    AtMostOne s.network ∧
    (∀ link, s.dispatcher.worker = .waiting link → OnlyOpen link.connection s.network) ∧
    ∀ label s', TidyLinkedStep queueSize quality s label s' → LabelSafe s.network label s'.network := by
  have hs : LinkKept s := by
    apply h.stateInvariant LinkKept
    · have hnone : OnlyOpen none (LinkedDispatcher.start Image).network := by
        intro n hn
        cases hn
      exact ⟨hnone.atMostOne, hnone.stored ⟨none, none⟩⟩
    · intro s label s' hs hstep
      exact (linkKept_step hs hstep).1
  refine ⟨hs.1, ?_, fun label s' hstep => (linkKept_step hs hstep).2⟩
  intro link hwaiting n hn
  have hstored := hs.2
  rw [hwaiting] at hstored
  rw [hstored n hn]

/-- The first publish of a run in which nothing fails. -/
lemma dialed_run : ∃ labels s,
    Transition.Run (TidyLinkedStep 500 85) (LinkedDispatcher.start Unit) labels s ∧
    s.network.connectionOpen 0 = true := by
  have hsubmit := Transition.Run.single (show TidyLinkedStep 500 85 (LinkedDispatcher.start Unit)
    (.step (.submit diskItem)) _ from ⟨.other rfl (.submit rfl), trivial⟩)
  have hput := hsubmit.snoc (show TidyLinkedStep 500 85 _ (.step (.put diskItem)) _ from
    ⟨.other rfl (.put rfl (by simp [queueFull, LinkedDispatcher.start, AlertDispatcher.start])), trivial⟩)
  have htake := hput.snoc (show TidyLinkedStep 500 85 _ (.step (.take diskItem)) _ from
    ⟨.other rfl (.take rfl rfl), trivial⟩)
  have hmakedirs := htake.snoc (show TidyLinkedStep 500 85 _
    (.step (.called ⟨.makedirs (dirname diskItem.filename), Except.ok ()⟩)) _ from
    ⟨.call (.call rfl (by simp)) (.meanwhile trivial .none), trivial⟩)
  have hup : ChannelsUp Network.start := by
    intro n hn
    cases hn
  have himwrite := hmakedirs.snoc (show TidyLinkedStep 500 85 _
    (.step (.called ⟨.imwrite diskItem.filename () 85, Except.ok true⟩)) _ from
    ⟨.call (.call rfl (by simp)) (.meanwhile trivial .none), hup⟩)
  have hdial := himwrite.snoc (show TidyLinkedStep 500 85 _
    (.step (.called ⟨.blockingConnection, Except.ok 0⟩)) _ from
    ⟨.call (.call rfl (by simp)) .dialed, trivial⟩)
  exact ⟨_, _, hdial, rfl⟩

/-- The first connection is the only one. -/
theorem no_connection_leaked_dialed : ∃ labels s,
    Transition.Run (TidyLinkedStep 500 85) (LinkedDispatcher.start Unit) labels s ∧
    s.network.connectionOpen 0 = true ∧ AtMostOne s.network := by
  obtain ⟨labels, s, hrun, hopen⟩ := dialed_run
  exact ⟨labels, s, hrun, hopen, (no_connection_leaked hrun).1⟩

end Kept

end IntruderWatch.Proofs
