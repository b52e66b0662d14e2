import IntruderWatch.Library.PyNumerals
import IntruderWatch.StaggeredStart

/-!
# How long the staggered start waits

The number of an instance is any numeral at the end of its hostname. The delay is short only where
this numeral is a small positive one, or where there is none.
-/

namespace IntruderWatch.Proofs
open Py Interaction StaggeredStart

/-! ### Runs of the guess -/

section Guess

variable {hostname : Str} {s s' : Unit} {t : Trace StartCall StartAns} {r : Except Exn ℤ}

/-- The number behind the last separator, or the other way to find one. -/
lemma exec_orOnValueError {sep : CodePoint} {y : StartProc ℤ} :
    Exec (orOnValueError (partNumber sep hostname) y) s t r s' ↔
      (∃ n, parseInt (lastPart sep hostname) = .ok n ∧ t = [] ∧ r = .ok n.val) ∨
        parseInt (lastPart sep hostname) = .error .valueError ∧ Exec y s t r s' := by
  unfold orOnValueError partNumber
  rw [exec_tryCatch]
  simp only [exec_evaluate]
  cases hparse : parseInt (lastPart sep hostname) with
  | ok n =>
    constructor
    · rintro (⟨a, ⟨rfl, ha, -⟩, rfl⟩ | ⟨-, -, e, -, -, ⟨-, he, -⟩, -⟩)
      · exact Or.inl ⟨n, rfl, rfl, congrArg Except.ok (Except.ok.inj ha)⟩
      · cases he
    · rintro (⟨m, hm, rfl, rfl⟩ | ⟨he, -⟩)
      · obtain rfl := Except.ok.inj hm
        exact Or.inl ⟨n.val, ⟨rfl, rfl, trivial⟩, rfl⟩
      · cases he
  | error e =>
    obtain rfl := parseInt_error hparse
    constructor
    · rintro (⟨a, ⟨-, ha, -⟩, -⟩ | ⟨t₁, t₂, e, s₁, rfl, ⟨rfl, he, -⟩, hy⟩)
      · cases ha
      · obtain rfl := Except.error.inj he
        exact Or.inr ⟨rfl, hy⟩
    · rintro (⟨m, hm, -⟩ | ⟨-, hy⟩)
      · cases hm
      · exact Or.inr ⟨[], t, .valueError, s, rfl, ⟨rfl, rfl, trivial⟩, hy⟩

lemma exec_drawNumber :
    Exec drawNumber s t r s' ↔ ∃ n : StartAns (.randint 1 5), t = [⟨_, n⟩] ∧ r = .ok n.val := by
  unfold drawNumber
  rw [exec_perform_bind]
  simp only [exec_pure]
  constructor
  · rintro ⟨n, t', rfl, rfl, rfl, -⟩
    exact ⟨n, rfl, rfl⟩
  · rintro ⟨n, rfl, rfl⟩
    exact ⟨n, [], rfl, rfl, rfl, trivial⟩

/-- The number is found behind an underscore, behind a hyphen, or drawn. -/
lemma exec_instanceNum : Exec (instanceNum hostname) s t r s' ↔
    (∃ n, parseInt (lastPart underscore hostname) = .ok n ∧ t = [] ∧ r = .ok n.val) ∨
      parseInt (lastPart underscore hostname) = .error .valueError ∧
        ((∃ n, parseInt (lastPart hyphen hostname) = .ok n ∧ t = [] ∧ r = .ok n.val) ∨
          parseInt (lastPart hyphen hostname) = .error .valueError ∧
            ∃ n : StartAns (.randint 1 5), t = [⟨_, n⟩] ∧ r = .ok n.val) := by
  unfold instanceNum
  rw [exec_orOnValueError, exec_orOnValueError, exec_drawNumber]

/-- No exception leaves the guess. -/
lemma exec_initDelay : Exec (initDelay hostname) s t r s' ↔
    ∃ n : ℤ, Exec (instanceNum hostname) s t (.ok n) s' ∧ r = .ok ((n - 1) * 3) := by
  unfold initDelay
  rw [exec_bind]
  simp only [exec_pure]
  constructor
  · rintro (⟨e, he, -⟩ | ⟨t₁, t₂, n, s₁, rfl, hn, rfl, rfl, -⟩)
    · rcases exec_instanceNum.mp he with ⟨n, -, -, hr⟩ | ⟨-, ⟨n, -, -, hr⟩ | ⟨-, n, -, hr⟩⟩
      all_goals cases hr
    · rw [List.append_nil]
      exact ⟨n, hn, rfl⟩
  · rintro ⟨n, hn, rfl⟩
    exact Or.inr ⟨t, [], n, s', (List.append_nil t).symm, hn, rfl, rfl, trivial⟩

/-- `time.sleep` waits for the seconds it is given, none of them negative. -/
lemma exec_timeSleep {seconds : ℤ} {u : Unit} (h : Exec (timeSleep seconds) s t (.ok u) s') :
    0 ≤ seconds ∧ t = [⟨.sleep seconds, ()⟩] := by
  unfold timeSleep at h
  by_cases hrange : 2 ^ 63 ≤ seconds.natAbs * 10 ^ 9
  · rw [if_pos hrange] at h
    cases (exec_throw.mp h).2.1
  · rw [if_neg hrange] at h
    by_cases hneg : seconds < 0
    · rw [if_pos hneg] at h
      cases (exec_throw.mp h).2.1
    · rw [if_neg hneg] at h
      obtain ⟨a, rfl, -, -⟩ := exec_perform.mp h
      exact ⟨not_lt.mp hneg, rfl⟩

/-- A start that comes through has waited for the computed delay. -/
theorem staggeredStart_sleeps {u : Unit} (h : Exec (staggeredStart hostname) s t (.ok u) s') :
    ∃ t₁ delay text, Exec (initDelay hostname) s t₁ (.ok delay) s' ∧ 0 ≤ delay ∧
      t = t₁ ++ [⟨.logInfo text, ()⟩, ⟨.sleep delay, ()⟩] := by
  unfold staggeredStart at h
  rcases exec_bind.mp h with ⟨e, -, he⟩ | ⟨t₁, t₂, delay, s₁, rfl, hdelay, hline⟩
  · cases he
  · rcases exec_evaluate_bind.mp hline with ⟨e, -, -, he, -⟩ | ⟨text, -, hlog⟩
    · cases he
    · obtain ⟨a, t₃, rfl, hsleep⟩ := exec_perform_bind.mp hlog
      obtain ⟨hpos, rfl⟩ := exec_timeSleep hsleep
      exact ⟨t₁, delay, _, hdelay, hpos, rfl⟩

end Guess

/-! ### Hostnames -/

/-- A default hostname of Docker: the first twelve digits of the container's identifier. -/
def DockerHostname (hostname : Str) : Prop :=
  hostname.length = 12 ∧ ∀ c ∈ hostname, 48 ≤ c.val ∧ c.val ≤ 57 ∨ 97 ≤ c.val ∧ c.val ≤ 102

/-- The delay is not negative, and for a hostname of Docker one of the drawn ones. -/
def EndsSoon (hostname : Str) : Prop :=
  ∀ t r s', Exec (initDelay hostname) () t r s' →
    ∃ delay, r = .ok delay ∧ 0 ≤ delay ∧
      (DockerHostname hostname → delay ∈ ([0, 3, 6, 9, 12] : List ℤ))

/-- The text is not a numeral of zero or of a negative number. -/
def NotBelowOne (part : Str) : Prop :=
  ∀ neg ds, Spells part neg ds → neg = false ∧ ∃ d ∈ ds, d ≠ 0

structure StartsSoon (hostname : Str) : Prop where
  underscored : NotBelowOne (lastPart underscore hostname)
  hyphenated : (∀ neg ds, ¬ Spells (lastPart underscore hostname) neg ds) →
    NotBelowOne (lastPart hyphen hostname)
  docker : DockerHostname hostname → (∃ c ∈ hostname, 97 ≤ c.val) ∨
    ∃ d, 1 ≤ d ∧ d ≤ 5 ∧ hostname = (List.replicate 11 0 ++ [d]).map digitChar

lemma DockerHostname.lastPart {hostname : Str} (h : DockerHostname hostname) {sep : CodePoint}
    (hsep : sep = underscore ∨ sep = hyphen) : lastPart sep hostname = hostname := by
  have hnot : sep ∉ hostname := by
    intro hmem
    have hval := h.2 sep hmem
    rcases hsep with rfl | rfl
    · rw [show underscore.val = 95 from rfl] at hval
      omega
    · rw [show hyphen.val = 45 from rfl] at hval
      omega
  unfold StaggeredStart.lastPart
  simp only [split_of_notMem hnot, List.getLast_singleton]

lemma mem_delays {n : ℤ} : (n - 1) * 3 ∈ ([0, 3, 6, 9, 12] : List ℤ) ↔ 1 ≤ n ∧ n ≤ 5 := by
  simp only [List.mem_cons, List.not_mem_nil, or_false]
  omega

/-- Twelve digits, unless there is a letter. -/
lemma DockerHostname.digits {hostname : Str} (h : DockerHostname hostname)
    (hletter : ¬ ∃ c ∈ hostname, 97 ≤ c.val) :
    ∃ ds : List ℕ, hostname = ds.map digitChar ∧ ds.length = 12 ∧ ∀ d ∈ ds, d < 10 := by
  have hdigit : ∀ c ∈ hostname, 48 ≤ c.val ∧ c.val ≤ 57 := by
    intro c hc
    rcases h.2 c hc with hval | hval
    · exact hval
    · exact absurd ⟨c, hc, hval.1⟩ hletter
  refine ⟨hostname.map (fun c => c.val - 48), ?_, by rw [List.length_map, h.1], ?_⟩
  · rw [List.map_map]
    have hread : ∀ c ∈ hostname, (digitChar ∘ fun c => c.val - 48) c = id c := by
      intro c hc
      have hval := hdigit c hc
      change digitChar (c.val - 48) = c
      exact Fin.ext ((digitChar_val (by omega)).trans (by omega))
    rw [List.map_congr_left hread, List.map_id]
  · intro d hd
    obtain ⟨c, hc, rfl⟩ := List.mem_map.mp hd
    have hval := hdigit c hc
    omega

lemma dockerHostname_digits {ds : List ℕ} (hlength : ds.length = 12) (hds : ∀ d ∈ ds, d < 10) :
    DockerHostname (ds.map digitChar) := by
  refine ⟨by rw [List.length_map, hlength], ?_⟩
  intro c hc
  obtain ⟨d, hd, rfl⟩ := List.mem_map.mp hc
  have hlt := hds d hd
  rw [digitChar_val hlt]
  omega

/-- Twelve digits for at most five are eleven zeros and a digit. -/
lemma small_digits {ds : List ℕ} (hlength : ds.length = 12) (hvalue : ofDecimalDigits ds ≤ 5) :
    ds = List.replicate 11 0 ++ [ofDecimalDigits ds] := by
  rcases List.eq_nil_or_concat ds with rfl | ⟨front, d, rfl⟩
  · cases hlength
  · rw [List.concat_eq_append] at hlength hvalue ⊢
    rw [List.length_append, List.length_singleton, Nat.add_right_cancel_iff] at hlength
    rw [ofDecimalDigits_snoc] at hvalue ⊢
    have hzero : ofDecimalDigits front = 0 := by omega
    rw [hzero, mul_zero, zero_add, ← hlength]
    rw [← List.eq_replicate_of_mem (ofDecimalDigits_eq_zero_iff.mp hzero)]

lemma replicate_digits {d : ℕ} (hd : d ≤ 5) :
    (∀ n ∈ List.replicate 11 0 ++ [d], n < 10) ∧ ofDecimalDigits (List.replicate 11 0 ++ [d]) = d := by
  constructor
  · intro n hn
    rw [List.mem_append, List.mem_replicate, List.mem_singleton] at hn
    omega
  · rw [ofDecimalDigits_snoc, ofDecimalDigits_eq_zero_iff.mpr (fun n hn => List.eq_of_mem_replicate hn)]
    omega

/-- The numbers that a Docker hostname spells. -/
lemma DockerHostname.soon_iff {hostname : Str} (h : DockerHostname hostname) :
    ((∃ c ∈ hostname, 97 ≤ c.val) ∨
        ∃ d, 1 ≤ d ∧ d ≤ 5 ∧ hostname = (List.replicate 11 0 ++ [d]).map digitChar) ↔
      ∀ n, parseInt hostname = .ok n → 1 ≤ n.val ∧ n.val ≤ 5 := by
  constructor
  · rintro (⟨c, hc, hletter⟩ | ⟨d, hd1, hd5, rfl⟩) n hn
    · obtain ⟨neg, ds, hspells, -⟩ := parseInt_eq_ok_iff.mp hn
      have hcode := hspells.code_lt c hc
      have hascii : c.val < 128 := by
        have hval := h.2 c hc
        omega
      rw [toAsciiDigit, if_pos hascii] at hcode
      omega
    · obtain ⟨hdigits, hvalue⟩ := replicate_digits hd5
      obtain ⟨m, hm, hmvalue⟩ := (spells_digits (by simp) hdigits (by simp [maxStrDigits])).parseInt
      obtain rfl := Except.ok.inj (hm.symm.trans hn)
      rw [hmvalue, hvalue, signedValue, if_neg Bool.false_ne_true]
      omega
  · intro hsmall
    by_cases hletter : ∃ c ∈ hostname, 97 ≤ c.val
    · exact Or.inl hletter
    · obtain ⟨ds, rfl, hlength, hdigits⟩ := h.digits hletter
      have hne : ds ≠ [] := List.ne_nil_of_length_pos (by omega)
      obtain ⟨n, hn, hvalue⟩ := (spells_digits hne hdigits (by rw [hlength]; decide)).parseInt
      have hbounds := hsmall n hn
      rw [hvalue, signedValue, if_neg Bool.false_ne_true] at hbounds
      exact Or.inr ⟨ofDecimalDigits ds, by omega, by omega,
        congrArg _ (small_digits hlength (by omega))⟩

lemma notBelowOne_iff {part : Str} : NotBelowOne part ↔ ∀ n, parseInt part = .ok n → 1 ≤ n.val := by
  constructor
  · intro h n hn
    obtain ⟨neg, ds, hspells, hvalue⟩ := parseInt_eq_ok_iff.mp hn
    rw [hvalue]
    exact one_le_signedValue_iff.mpr (h neg ds hspells)
  · intro h neg ds hspells
    obtain ⟨n, hn, hvalue⟩ := hspells.parseInt
    exact one_le_signedValue_iff.mp (hvalue ▸ h n hn)

lemma no_numeral_iff {part : Str} :
    (∀ neg ds, ¬ Spells part neg ds) ↔ parseInt part = .error .valueError := by
  constructor
  · intro h
    cases hparse : parseInt part with
    | ok n =>
      obtain ⟨neg, ds, hspells, -⟩ := parseInt_eq_ok_iff.mp hparse
      exact absurd hspells (h neg ds)
    | error e => rw [parseInt_error hparse]
  · intro h neg ds hspells
    obtain ⟨n, hn, -⟩ := hspells.parseInt
    rw [h] at hn
    cases hn

lemma EndsSoon.number {hostname : Str} (h : EndsSoon hostname) {t : Trace StartCall StartAns} {n : ℤ}
    (hrun : Exec (instanceNum hostname) () t (.ok n) ()) :
    1 ≤ n ∧ (DockerHostname hostname → n ≤ 5) := by
  obtain ⟨delay, hdelay, hpos, hdocker⟩ := h _ _ _ (exec_initDelay.mpr ⟨n, hrun, rfl⟩)
  obtain rfl := Except.ok.inj hdelay
  exact ⟨by omega, fun hd => (mem_delays.mp (hdocker hd)).2⟩

end IntruderWatch.Proofs
