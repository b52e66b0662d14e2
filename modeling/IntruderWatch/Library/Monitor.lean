import IntruderWatch.Library.Interaction
import IntruderWatch.Library.Runs

/-!
# Monitors

State guarded by a mutex that threads reach only through methods. A method is a statement over the
guarded state, and its calls are made one by one while its thread holds the mutex; meanwhile the
other threads move on their own. The rule at the end reduces an invariant of all interleavings to
the runs of single methods.
-/

namespace Monitor
open Interaction

/-- Threads `ι` with their common control `κ`: the steps `α` that they take on their own, the methods
that they call, and where they go with a result. -/
structure System (κ ι α σ Op : Type) (Ans : Op → Type) where
  Method : Type
  Result : Method → Type
  body : (m : Method) → Proc σ Op Ans Empty (Result m)
  own : κ → ι → α → κ → Prop
  calls : κ → ι → Method → Prop
  returns : κ → ι → (m : Method) → Result m → κ → Prop

variable {κ ι α σ Op : Type} {Ans : Op → Type} (M : System κ ι α σ Op Ans)

/-- A method that holds the mutex: its calls so far and what is left of it. -/
structure Section where
  thread : ι
  method : M.Method
  past : Trace Op Ans
  rest : Prog Op Ans (Except Empty (M.Result method) × σ)

structure State where
  control : κ
  guarded : σ
  holder : Option (Section M)

inductive Label
  | own (i : ι) (a : α)
  | enter (i : ι) (m : M.Method)
  | called (call : (op : Op) × Ans op)
  | leave (i : ι) (m : M.Method) (r : M.Result m)

inductive Step (s : State M) : Label M → State M → Prop
  | own {i : ι} {a : α} {control : κ} : (∀ c ∈ s.holder, c.thread ≠ i) → M.own s.control i a control →
      Step s (.own i a) { s with control := control }
  | enter {i : ι} {m : M.Method} : s.holder = none → M.calls s.control i m →
      Step s (.enter i m) { s with holder := some ⟨i, m, [], (M.body m).start s.guarded⟩ }
  | called {i : ι} {m : M.Method} {past : Trace Op Ans} {op : Op} {answer : Ans op}
      {k : Ans op → Prog Op Ans (Except Empty (M.Result m) × σ)} :
      s.holder = some ⟨i, m, past, .call op k⟩ →
      Step s (.called ⟨op, answer⟩) { s with holder := some ⟨i, m, past ++ [⟨op, answer⟩], k answer⟩ }
  | leave {i : ι} {m : M.Method} {past : Trace Op Ans} {r : M.Result m} {guarded : σ} {control : κ} :
      s.holder = some ⟨i, m, past, .ret (.ok r, guarded)⟩ → M.returns s.control i m r control →
      Step s (.leave i m r) ⟨control, guarded, none⟩

abbrev Run (control : κ) (guarded : σ) :=
  Transition.Run (Step M) (⟨control, guarded, none⟩ : State M)

variable {M}

def Label.call? : Label M → Option ((op : Op) × Ans op)
  | .called call => some call
  | _ => none

/-- The calls that were made under the mutex. -/
def innerCalls (labels : List (Label M)) : Trace Op Ans := labels.filterMap Label.call?

@[simp] lemma innerCalls_snoc (labels : List (Label M)) (l : Label M) :
    innerCalls (labels ++ [l]) = innerCalls labels ++ l.call?.toList := by
  rw [innerCalls, List.filterMap_append]
  cases h : l.call? with
  | none => simp [innerCalls, h]
  | some call => simp [innerCalls, h]

/-- The calls before the section of the holder are `before`, and the section is under way. -/
def Follows (s : State M) (labels : List (Label M)) (before : Trace Op Ans) : Prop :=
  match s.holder with
  | none => innerCalls labels = before
  | some c => innerCalls labels = before ++ c.past ∧
      ((M.body c.method).start s.guarded).Reaches c.past c.rest

section

variable {Inv : κ → Trace Op Ans → σ → Prop} {control : κ} {guarded : σ}
  {labels : List (Label M)} {s s' : State M}

/-- The invariant speaks of the calls of finished sections; the guarded state changes with the last
call of a section only. -/
structure Preserved (M : System κ ι α σ Op Ans) (Inv : κ → Trace Op Ans → σ → Prop) : Prop where
  own : ∀ k t g i a k', Inv k t g → M.own k i a k' → Inv k' t g
  method : ∀ k t g i m t' r g' k', Inv k t g → Exec (M.body m) g t' (.ok r) g' →
    M.returns k i m r k' → Inv k' (t ++ t') g'

lemma step_follows (hP : Preserved M Inv) {l : Label M} (hstep : Step M s l s')
    {before : Trace Op Ans} (hs : Follows s labels before) (hInv : Inv s.control before s.guarded) :
    ∃ before', Follows s' (labels ++ [l]) before' ∧ Inv s'.control before' s'.guarded := by
  cases hstep with
  | own _ hown =>
    refine ⟨before, ?_, hP.own _ _ _ _ _ _ hInv hown⟩
    unfold Follows at hs ⊢
    rw [innerCalls_snoc]
    simpa [Label.call?] using hs
  | enter hfree _ =>
    refine ⟨before, ?_, hInv⟩
    unfold Follows at hs ⊢
    rw [hfree] at hs
    rw [innerCalls_snoc]
    exact ⟨by simpa [Label.call?] using hs, .start⟩
  | called hbusy =>
    refine ⟨before, ?_, hInv⟩
    unfold Follows at hs ⊢
    rw [hbusy] at hs
    obtain ⟨hcalls, hreach⟩ := hs
    rw [innerCalls_snoc]
    exact ⟨by simp [Label.call?, hcalls], hreach.answered _⟩
  | leave hbusy hreturns =>
    unfold Follows at hs
    rw [hbusy] at hs
    obtain ⟨hcalls, hreach⟩ := hs
    refine ⟨_, ?_, hP.method _ _ _ _ _ _ _ _ _ hInv hreach.runs_of_ret hreturns⟩
    unfold Follows
    rw [innerCalls_snoc]
    simpa [Label.call?] using hcalls

/-- The rule for monitors. -/
theorem invariant (hP : Preserved M Inv) (h0 : Inv control [] guarded)
    (h : Run M control guarded labels s) :
    ∃ before, Follows s labels before ∧ Inv s.control before s.guarded := by
  apply h.invariant (fun labels s => ∃ before, Follows s labels before ∧ Inv s.control before s.guarded)
  · exact ⟨[], rfl, h0⟩
  · rintro labels s l s' ⟨before, hs, hInv⟩ hstep
    exact step_follows hP hstep hs hInv

/-- While the mutex is free, the invariant holds of all calls so far. -/
theorem invariant_free (hP : Preserved M Inv) (h0 : Inv control [] guarded)
    (h : Run M control guarded labels s) (hfree : s.holder = none) :
    Inv s.control (innerCalls labels) s.guarded := by
  obtain ⟨before, hs, hInv⟩ := invariant hP h0 h
  unfold Follows at hs
  rw [hfree] at hs
  rwa [hs]

/-- A section that ends has been a run of its method from the guarded state. -/
theorem leave_exec (hP : Preserved M Inv) (h0 : Inv control [] guarded)
    (h : Run M control guarded labels s) {i : ι} {m : M.Method} {r : M.Result m}
    (hstep : Step M s (.leave i m r) s') :
    ∃ before past, Follows s labels before ∧ innerCalls labels = before ++ past ∧
      Inv s.control before s.guarded ∧ Exec (M.body m) s.guarded past (.ok r) s'.guarded := by
  obtain ⟨before, hs, hInv⟩ := invariant hP h0 h
  cases hstep with
  | leave hbusy _ =>
    have hsection := hs
    unfold Follows at hsection
    rw [hbusy] at hsection
    obtain ⟨hcalls, hreach⟩ := hsection
    exact ⟨before, _, hs, hcalls, hInv, hreach.runs_of_ret⟩

end

end Monitor
