import IntruderWatch.Library.Interaction

/-!
# Programs in a world

The answers to the calls of a program come from a world that the calls change. `Safe` is the weakest
precondition of a program: whatever the world answers, each call is good where it is made, and what
is returned satisfies a postcondition. For statements there is one rule for each construct, an
equivalence.
-/

namespace Interaction

variable {Op : Type} {Ans : Op → Type} {W α β σ χ : Type}

/-- The worlds before and after a call with its answer. -/
abbrev WorldStep (Op : Type) (Ans : Op → Type) (W : Type) := W → (op : Op) × Ans op → W → Prop

variable {Step Good : WorldStep Op Ans W} {Q Q' : α → W → Prop} {w : W}

/-- In the world `w` all calls of the program are good, and its result satisfies `Q`. -/
def Prog.Safe (Step Good : WorldStep Op Ans W) (Q : α → W → Prop) : Prog Op Ans α → W → Prop
  | .ret a, w => Q a w
  | .call op k, w => ∀ r w', Step w ⟨op, r⟩ w' → Good w ⟨op, r⟩ w' ∧ (k r).Safe Step Good Q w'

namespace Prog

lemma Safe.mono {p : Prog Op Ans α} (h : p.Safe Step Good Q w) (hQ : ∀ a w, Q a w → Q' a w) :
    p.Safe Step Good Q' w := by
  induction p generalizing w with
  | ret a => exact hQ a w h
  | call op k ih =>
    intro r w' hstep
    obtain ⟨hgood, hrest⟩ := h r w' hstep
    exact ⟨hgood, ih r hrest⟩

lemma safe_congr {p : Prog Op Ans α} (hQ : ∀ a w, Q a w ↔ Q' a w) :
    p.Safe Step Good Q w ↔ p.Safe Step Good Q' w := by
  constructor
  · intro h
    exact h.mono (fun a w => (hQ a w).mp)
  · intro h
    exact h.mono (fun a w => (hQ a w).mpr)

lemma safe_bind {p : Prog Op Ans α} {f : α → Prog Op Ans β} {Q : β → W → Prop} :
    (p >>= f).Safe Step Good Q w ↔ p.Safe Step Good (fun a w => (f a).Safe Step Good Q w) w := by
  change (p.bind f).Safe Step Good Q w ↔ _
  induction p generalizing w with
  | ret a => exact Iff.rfl
  | call op k ih =>
    apply forall_congr'
    intro r
    apply forall_congr'
    intro w'
    exact imp_congr_right (fun _ => and_congr_right (fun _ => ih r))

/-- A program under way stays safe. -/
lemma Safe.answered {op : Op} {k : Ans op → Prog Op Ans α} {r : Ans op} {w' : W}
    (h : (Prog.call op k).Safe Step Good Q w) (hstep : Step w ⟨op, r⟩ w') :
    Good w ⟨op, r⟩ w' ∧ (k r).Safe Step Good Q w' :=
  h r w' hstep

end Prog

/-! ### Statements -/

/-- The weakest precondition of a statement. -/
def Proc.wp (Step Good : WorldStep Op Ans W) (x : Proc σ Op Ans χ α)
    (Q : Except χ α → σ → W → Prop) (s : σ) (w : W) : Prop :=
  (x.start s).Safe Step Good (fun p w => Q p.1 p.2 w) w

namespace Proc

variable {s : σ} {x : Proc σ Op Ans χ α} {R R' : Except χ α → σ → W → Prop}

lemma wp_mono (h : x.wp Step Good R s w) (hR : ∀ r s w, R r s w → R' r s w) :
    x.wp Step Good R' s w :=
  Prog.Safe.mono h (fun p => hR p.1 p.2)

lemma wp_evaluate {v : Except χ α} : (evaluate v : Proc σ Op Ans χ α).wp Step Good R s w ↔ R v s w :=
  Iff.rfl

lemma wp_perform {op : Op} {R : Except χ (Ans op) → σ → W → Prop} :
    (perform op : Proc σ Op Ans χ (Ans op)).wp Step Good R s w ↔
      ∀ r w', Step w ⟨op, r⟩ w' → Good w ⟨op, r⟩ w' ∧ R (.ok r) s w' :=
  Iff.rfl

lemma wp_modify {f : σ → σ} {R : Except χ PUnit → σ → W → Prop} :
    (modify f : Proc σ Op Ans χ PUnit).wp Step Good R s w ↔ R (.ok ⟨⟩) (f s) w :=
  Iff.rfl

lemma wp_bind {f : α → Proc σ Op Ans χ β} {R : Except χ β → σ → W → Prop} :
    (x >>= f).wp Step Good R s w ↔ x.wp Step Good (fun r s w =>
      match r with
      | .ok a => (f a).wp Step Good R s w
      | .error e => R (.error e) s w) s w := by
  unfold Proc.wp
  change (x.start s >>= fun p => _ : Prog Op Ans _).Safe Step Good _ w ↔ _
  rw [Prog.safe_bind]
  apply Prog.safe_congr
  rintro ⟨r, s'⟩ w'
  cases r <;> exact Iff.rfl

lemma wp_get_bind {f : σ → Proc σ Op Ans χ β} {R : Except χ β → σ → W → Prop} :
    (get >>= f).wp Step Good R s w ↔ (f s).wp Step Good R s w :=
  Iff.rfl

lemma wp_evaluate_bind {v : Except χ α} {f : α → Proc σ Op Ans χ β} {R : Except χ β → σ → W → Prop} :
    (evaluate v >>= f).wp Step Good R s w ↔
      match v with
      | .ok a => (f a).wp Step Good R s w
      | .error e => R (.error e) s w := by
  rw [wp_bind, wp_evaluate]

lemma wp_perform_bind {op : Op} {f : Ans op → Proc σ Op Ans χ β} {R : Except χ β → σ → W → Prop} :
    (perform op >>= f).wp Step Good R s w ↔
      ∀ r w', Step w ⟨op, r⟩ w' → Good w ⟨op, r⟩ w' ∧ (f r).wp Step Good R s w' := by
  rw [wp_bind, wp_perform]

lemma wp_tryCatch {h : χ → Proc σ Op Ans χ α} :
    (tryCatch x h).wp Step Good R s w ↔ x.wp Step Good (fun r s w =>
      match r with
      | .ok a => R (.ok a) s w
      | .error e => (h e).wp Step Good R s w) s w := by
  unfold Proc.wp
  change (x.start s >>= fun p => _ : Prog Op Ans _).Safe Step Good _ w ↔ _
  rw [Prog.safe_bind]
  apply Prog.safe_congr
  rintro ⟨r, s'⟩ w'
  cases r <;> exact Iff.rfl

lemma wp_withFinally {fin : Proc σ Op Ans χ Unit} :
    (withFinally x fin).wp Step Good R s w ↔ x.wp Step Good (fun r s w =>
      fin.wp Step Good (fun r' s w => R (r'.bind (fun _ => r)) s w) s w) s w := by
  unfold Proc.wp
  change (x.start s >>= fun p => fin.start p.2 >>= fun q => _ : Prog Op Ans _).Safe Step Good _ w ↔ _
  rw [Prog.safe_bind]
  apply Prog.safe_congr
  rintro ⟨r, s'⟩ w'
  rw [Prog.safe_bind]
  apply Prog.safe_congr
  rintro ⟨r', s''⟩ w''
  cases r' <;> exact Iff.rfl

end Proc

end Interaction
