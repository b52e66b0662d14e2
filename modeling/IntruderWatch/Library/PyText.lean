import Mathlib.Tactic

/-!
# Python text

A `str` is a list of code points, surrogates included. This file has the exception classes
that the modelled built-ins raise, the strict UTF-8 codec with its round trip, and `split`.
-/

namespace Py

abbrev CodePoint := Fin 0x110000

abbrev Str := List CodePoint

lemma char_toNat_lt (c : Char) : c.toNat < 0x110000 := by
  have hvalid := c.valid
  rw [UInt32.isValidChar, Nat.isValidChar] at hvalid
  have hnat : c.toNat = c.val.toNat := rfl
  omega

def ofChar (c : Char) : CodePoint := ⟨c.toNat, char_toNat_lt c⟩

/-- `chr(n)`, for `n` in range. -/
def codePoint (n : ℕ) : CodePoint := Fin.ofNat 0x110000 n

lemma codePoint_val {n : ℕ} (h : n < 0x110000) : (codePoint n).val = n :=
  Nat.mod_eq_of_lt h

/-- A string literal. -/
def lit (s : String) : Str := s.toList.map ofChar

/-- The exception classes that the modelled code can see. -/
inductive Exn
  | valueError
  | unicodeEncodeError
  | unicodeDecodeError
  | binasciiError
  | jsonDecodeError
  | typeError
  | attributeError
  | keyError
  | overflowError
  | recursionError
  | osError
  | connectionError
  | connectionRefusedError
  /-- A class of a third-party package, with its subclasses. -/
  | foreign (name : String)
  | other
deriving DecidableEq

/-- The instances of `ValueError`. -/
def Exn.isValueError : Exn → Bool
  | .valueError | .unicodeEncodeError | .unicodeDecodeError | .binasciiError
  | .jsonDecodeError => true
  | _ => false

/-- Inversion of a sequence of fallible steps. -/
lemma bind_eq_ok {ε α β : Type} {x : Except ε α} {f : α → Except ε β} {b : β} :
    (x >>= f) = .ok b ↔ ∃ a, x = .ok a ∧ f a = .ok b := by
  cases x with
  | error e => simp [bind, Except.bind]
  | ok a => simp [bind, Except.bind]

def isAscii (s : Str) : Bool :=
  s.all (fun c => c.val < 128)

def isSurrogate (n : ℕ) : Bool :=
  0xD800 ≤ n && n < 0xE000

/-! ### UTF-8 -/

def encodeCodePoint (c : CodePoint) : Option (List UInt8) :=
  let n := c.val
  if n < 0x80 then some [UInt8.ofNat n]
  else if n < 0x800 then some [UInt8.ofNat (0xC0 + n / 64), UInt8.ofNat (0x80 + n % 64)]
  else if isSurrogate n then none
  else if n < 0x10000 then
    some [UInt8.ofNat (0xE0 + n / 4096), UInt8.ofNat (0x80 + n / 64 % 64), UInt8.ofNat (0x80 + n % 64)]
  else
    some [UInt8.ofNat (0xF0 + n / 262144), UInt8.ofNat (0x80 + n / 4096 % 64),
      UInt8.ofNat (0x80 + n / 64 % 64), UInt8.ofNat (0x80 + n % 64)]

/-- `s.encode()`. -/
def encode : Str → Except Exn (List UInt8)
  | [] => .ok []
  | c :: s =>
    match encodeCodePoint c with
    | none => .error .unicodeEncodeError
    | some bytes => do
      let rest ← encode s
      .ok (bytes ++ rest)

/-- Strict decoding, byte by byte: `need` continuation bytes are missing from the current
character, `acc` holds its bits so far, and `least` is the least code point of its length. -/
def decodeLoop : List UInt8 → ℕ → ℕ → ℕ → Except Exn Str
  | [], need, _, _ => if need = 0 then .ok [] else .error .unicodeDecodeError
  | b :: rest, 0, _, _ =>
    let n := b.toNat
    if h : n < 0x80 then do
      let s ← decodeLoop rest 0 0 0
      .ok (⟨n, by omega⟩ :: s)
    else if n < 0xC0 then .error .unicodeDecodeError
    else if n < 0xE0 then decodeLoop rest 1 (n - 0xC0) 0x80
    else if n < 0xF0 then decodeLoop rest 2 (n - 0xE0) 0x800
    else if n < 0xF8 then decodeLoop rest 3 (n - 0xF0) 0x10000
    else .error .unicodeDecodeError
  | b :: rest, need + 1, acc, least =>
    let n := b.toNat
    if 0x80 ≤ n ∧ n < 0xC0 then
      let acc := acc * 64 + (n - 0x80)
      if need = 0 then
        if h : least ≤ acc ∧ acc < 0x110000 ∧ isSurrogate acc = false then do
          let s ← decodeLoop rest 0 0 0
          .ok (⟨acc, h.2.1⟩ :: s)
        else .error .unicodeDecodeError
      else decodeLoop rest need acc least
    else .error .unicodeDecodeError

/-- `b.decode()`. -/
def decode (b : List UInt8) : Except Exn Str :=
  decodeLoop b 0 0 0

lemma toNat_ofNat_of_lt {n : ℕ} (h : n < 256) : (UInt8.ofNat n).toNat = n := by
  rw [UInt8.toNat_ofNat', Nat.mod_eq_of_lt h]

section Loop

variable {rest : List UInt8} {n need acc least : ℕ}

lemma decodeLoop_ascii (h : n < 0x80) : decodeLoop (UInt8.ofNat n :: rest) 0 acc least =
    (decodeLoop rest 0 0 0).map (⟨n, by omega⟩ :: ·) := by
  have hn : (UInt8.ofNat n).toNat = n := toNat_ofNat_of_lt (by omega)
  simp only [decodeLoop, hn, h, dif_pos]
  cases decodeLoop rest 0 0 0 <;> rfl

lemma decodeLoop_lead2 (h : n < 0x20) : decodeLoop (UInt8.ofNat (0xC0 + n) :: rest) 0 acc least =
    decodeLoop rest 1 n 0x80 := by
  have hn : (UInt8.ofNat (0xC0 + n)).toNat = 0xC0 + n := toNat_ofNat_of_lt (by omega)
  simp only [decodeLoop, hn]
  rw [dif_neg (by omega), if_neg (by omega), if_pos (by omega), Nat.add_sub_cancel_left]

lemma decodeLoop_lead3 (h : n < 0x10) : decodeLoop (UInt8.ofNat (0xE0 + n) :: rest) 0 acc least =
    decodeLoop rest 2 n 0x800 := by
  have hn : (UInt8.ofNat (0xE0 + n)).toNat = 0xE0 + n := toNat_ofNat_of_lt (by omega)
  simp only [decodeLoop, hn]
  rw [dif_neg (by omega), if_neg (by omega), if_neg (by omega), if_pos (by omega),
    Nat.add_sub_cancel_left]

lemma decodeLoop_lead4 (h : n < 8) : decodeLoop (UInt8.ofNat (0xF0 + n) :: rest) 0 acc least =
    decodeLoop rest 3 n 0x10000 := by
  have hn : (UInt8.ofNat (0xF0 + n)).toNat = 0xF0 + n := toNat_ofNat_of_lt (by omega)
  simp only [decodeLoop, hn]
  rw [dif_neg (by omega), if_neg (by omega), if_neg (by omega), if_neg (by omega),
    if_pos (by omega), Nat.add_sub_cancel_left]

lemma decodeLoop_more (h : n < 64) :
    decodeLoop (UInt8.ofNat (0x80 + n) :: rest) (need + 2) acc least =
      decodeLoop rest (need + 1) (acc * 64 + n) least := by
  have hn : (UInt8.ofNat (0x80 + n)).toNat = 0x80 + n := toNat_ofNat_of_lt (by omega)
  simp only [decodeLoop, hn]
  rw [if_pos (by omega), if_neg (by omega), Nat.add_sub_cancel_left]

lemma decodeLoop_last (h : n < 64)
    (hc : least ≤ acc * 64 + n ∧ acc * 64 + n < 0x110000 ∧ isSurrogate (acc * 64 + n) = false) :
    decodeLoop (UInt8.ofNat (0x80 + n) :: rest) 1 acc least =
      (decodeLoop rest 0 0 0).map (⟨acc * 64 + n, hc.2.1⟩ :: ·) := by
  have hn : (UInt8.ofNat (0x80 + n)).toNat = 0x80 + n := toNat_ofNat_of_lt (by omega)
  simp only [decodeLoop, hn, Nat.add_sub_cancel_left]
  rw [if_pos (by omega), if_pos trivial, dif_pos hc]
  cases decodeLoop rest 0 0 0 <;> rfl

end Loop

/-- One encoded character is read back. -/
lemma decodeLoop_encodeCodePoint {c : CodePoint} {bytes : List UInt8}
    (h : encodeCodePoint c = some bytes) (rest : List UInt8) :
    decodeLoop (bytes ++ rest) 0 0 0 = (decodeLoop rest 0 0 0).map (c :: ·) := by
  obtain ⟨n, hn⟩ := c
  unfold encodeCodePoint at h
  dsimp only at h
  split_ifs at h with h1 h2 h3 h4
  · obtain rfl := Option.some.inj h
    exact decodeLoop_ascii h1
  · obtain rfl := Option.some.inj h
    have hval : n / 64 * 64 + n % 64 = n := by omega
    have hsur : isSurrogate (n / 64 * 64 + n % 64) = false := by
      rw [hval]
      simp only [isSurrogate, Bool.and_eq_false_iff, decide_eq_false_iff_not]
      omega
    have hlead : n / 64 < 0x20 := by omega
    have hlast : n % 64 < 64 := by omega
    rw [List.cons_append, List.cons_append, decodeLoop_lead2 hlead,
      decodeLoop_last hlast ⟨by omega, by omega, hsur⟩]
    simp only [hval, List.nil_append]
  · obtain rfl := Option.some.inj h
    have hval : (n / 4096 * 64 + n / 64 % 64) * 64 + n % 64 = n := by omega
    have hsur : isSurrogate ((n / 4096 * 64 + n / 64 % 64) * 64 + n % 64) = false := by
      rw [hval]
      simpa using h3
    have hlead : n / 4096 < 0x10 := by omega
    have hmore : n / 64 % 64 < 64 := by omega
    have hlast : n % 64 < 64 := by omega
    rw [List.cons_append, List.cons_append, List.cons_append, decodeLoop_lead3 hlead,
      decodeLoop_more hmore, decodeLoop_last hlast ⟨by omega, by omega, hsur⟩]
    simp only [hval, List.nil_append]
  · obtain rfl := Option.some.inj h
    have hval : ((n / 262144 * 64 + n / 4096 % 64) * 64 + n / 64 % 64) * 64 + n % 64 = n := by
      omega
    have hsur : isSurrogate (((n / 262144 * 64 + n / 4096 % 64) * 64 + n / 64 % 64) * 64 +
        n % 64) = false := by
      rw [hval]
      simpa using h3
    have hlead : n / 262144 < 8 := by omega
    have hmore : n / 4096 % 64 < 64 := by omega
    have hmore' : n / 64 % 64 < 64 := by omega
    have hlast : n % 64 < 64 := by omega
    rw [List.cons_append, List.cons_append, List.cons_append, List.cons_append,
      decodeLoop_lead4 hlead, decodeLoop_more hmore, decodeLoop_more hmore',
      decodeLoop_last hlast ⟨by omega, by omega, hsur⟩]
    simp only [hval, List.nil_append]

/-- Decoding inverts encoding. -/
theorem decode_encode {s : Str} {b : List UInt8} (h : encode s = .ok b) : decode b = .ok s := by
  unfold decode
  induction s generalizing b with
  | nil =>
    obtain rfl : [] = b := by simpa [encode] using h
    rfl
  | cons c s ih =>
    rw [encode] at h
    cases hc : encodeCodePoint c with
    | none => simp [hc] at h
    | some bytes =>
      rw [hc] at h
      cases hs : encode s with
      | error e =>
        rw [hs] at h
        cases h
      | ok rest =>
        rw [hs] at h
        obtain rfl : bytes ++ rest = b := by
          cases h
          rfl
        rw [decodeLoop_encodeCodePoint hc, ih hs]
        rfl

/-- Different strings have different encodings. -/
lemma encode_inj {s t : Str} {b : List UInt8} (hs : encode s = .ok b) (ht : encode t = .ok b) :
    s = t := by
  have hboth := (decode_encode hs).symm.trans (decode_encode ht)
  exact Except.ok.inj hboth

/-- Text without surrogates can be encoded. -/
lemma encode_isOk {s : Str} (h : ∀ c ∈ s, isSurrogate c.val = false) : ∃ b, encode s = .ok b := by
  induction s with
  | nil => exact ⟨[], rfl⟩
  | cons c s ih =>
    obtain ⟨rest, hrest⟩ := ih (fun d hd => h d (List.mem_cons_of_mem c hd))
    have hc : ∃ bytes, encodeCodePoint c = some bytes := by
      unfold encodeCodePoint
      simp only [h c (by simp), Bool.false_eq_true, if_false]
      split_ifs <;> exact ⟨_, rfl⟩
    obtain ⟨bytes, hbytes⟩ := hc
    exact ⟨bytes ++ rest, by rw [encode, hbytes, hrest]; rfl⟩

lemma isSurrogate_of_ascii {c : CodePoint} (h : c.val < 128) : isSurrogate c.val = false := by
  simp only [isSurrogate, Bool.and_eq_false_iff, decide_eq_false_iff_not]
  omega

/-- ASCII bytes decode to themselves. -/
lemma decode_ascii {b : List UInt8} (h : ∀ c ∈ b, c.toNat < 128) :
    ∃ s, decode b = .ok s ∧ encode s = .ok b := by
  unfold decode
  induction b with
  | nil => exact ⟨[], rfl, rfl⟩
  | cons c b ih =>
    obtain ⟨s, hs, henc⟩ := ih (fun d hd => h d (List.mem_cons_of_mem c hd))
    have hc := h c (by simp)
    have hofNat : UInt8.ofNat c.toNat = c := UInt8.ofNat_toNat
    refine ⟨⟨c.toNat, by omega⟩ :: s, ?_, ?_⟩
    · have hloop := @decodeLoop_ascii b c.toNat 0 0 hc
      rw [hofNat, hs] at hloop
      exact hloop
    · have hbytes : encodeCodePoint ⟨c.toNat, by omega⟩ = some [c] := by
        simp only [encodeCodePoint, hofNat]
        rw [if_pos (by omega)]
      rw [encode, hbytes, henc]
      rfl

lemma decode_ascii_eq {b : List UInt8} (h : ∀ c ∈ b, c.toNat < 128) :
    decode b = .ok (b.map (fun c => codePoint c.toNat)) := by
  unfold decode
  induction b with
  | nil => rfl
  | cons c b ih =>
    have hc := h c (by simp)
    have hofNat : UInt8.ofNat c.toNat = c := UInt8.ofNat_toNat
    have hcode : codePoint c.toNat = ⟨c.toNat, by omega⟩ := Fin.ext (codePoint_val (by omega))
    have hloop := @decodeLoop_ascii b c.toNat 0 0 hc
    rw [hofNat, ih (fun d hd => h d (List.mem_cons_of_mem c hd))] at hloop
    rw [hloop, List.map_cons, hcode]
    rfl

lemma decodeLoop_error {b : List UInt8} {need acc least : ℕ} {e : Exn}
    (h : decodeLoop b need acc least = .error e) : e = .unicodeDecodeError := by
  induction b generalizing need acc least with
  | nil =>
    rw [decodeLoop] at h
    split at h
    · cases h
    · exact (Except.error.inj h).symm
  | cons c b ih =>
    -- a character is put before the result of the rest
    have hmap : ∀ d : CodePoint, (do let s ← decodeLoop b 0 0 0; .ok (d :: s)) = Except.error e →
        e = .unicodeDecodeError := by
      intro d hd
      cases hb : decodeLoop b 0 0 0 with
      | ok s =>
        rw [hb] at hd
        cases hd
      | error e' =>
        rw [hb] at hd
        obtain rfl := Except.error.inj hd
        exact ih hb
    cases need with
    | zero =>
      rw [decodeLoop] at h
      split_ifs at h
      · exact hmap _ h
      · exact (Except.error.inj h).symm
      · exact ih h
      · exact ih h
      · exact ih h
      · exact (Except.error.inj h).symm
    | succ need =>
      rw [decodeLoop] at h
      dsimp only at h
      split_ifs at h
      · exact hmap _ h
      · exact (Except.error.inj h).symm
      · exact ih h
      · exact (Except.error.inj h).symm

/-- The exception of strict decoding. -/
lemma decode_error {b : List UInt8} {e : Exn} (h : decode b = .error e) : e = .unicodeDecodeError :=
  decodeLoop_error h

/-! ### Splitting -/

/-- `s.split(sep)` for a separator of one character: at least one part. -/
def split (sep : CodePoint) : Str → List Str
  | [] => [[]]
  | c :: s =>
    if c = sep then [] :: split sep s
    else
      match split sep s with
      | [] => [[c]]
      | part :: parts => (c :: part) :: parts

lemma split_ne_nil (sep : CodePoint) (s : Str) : split sep s ≠ [] := by
  cases s with
  | nil => simp [split]
  | cons c s =>
    rw [split]
    split
    · simp
    · split <;> simp

lemma split_of_notMem {sep : CodePoint} {s : Str} (h : sep ∉ s) : split sep s = [s] := by
  induction s with
  | nil => rfl
  | cons c s ih =>
    rw [List.mem_cons, not_or] at h
    rw [split, if_neg (Ne.symm h.1), ih h.2]

/-- The text up to a separator is the first part. -/
lemma split_append {sep : CodePoint} {s t : Str} (h : sep ∉ s) :
    split sep (s ++ sep :: t) = s :: split sep t := by
  induction s with
  | nil => simp [split]
  | cons c s ih =>
    rw [List.mem_cons, not_or] at h
    rw [List.cons_append, split, if_neg (Ne.symm h.1), ih h.2]

/-- No part contains the separator. -/
lemma notMem_of_mem_split {sep : CodePoint} {s part : Str} (h : part ∈ split sep s) :
    sep ∉ part := by
  induction s generalizing part with
  | nil =>
    obtain rfl : part = [] := by simpa [split] using h
    simp
  | cons c s ih =>
    rw [split] at h
    by_cases hc : c = sep
    · rw [if_pos hc, List.mem_cons] at h
      rcases h with rfl | h
      · simp
      · exact ih h
    · rw [if_neg hc] at h
      cases hs : split sep s with
      | nil => exact absurd hs (split_ne_nil sep s)
      | cons first parts =>
        rw [hs, List.mem_cons] at h
        rcases h with rfl | h
        · rw [List.mem_cons, not_or]
          exact ⟨Ne.symm hc, ih (by rw [hs]; simp)⟩
        · exact ih (by rw [hs]; exact List.mem_cons_of_mem first h)

/-- The number of parts exceeds the number of separators by one. -/
lemma length_split (sep : CodePoint) (s : Str) : (split sep s).length = s.count sep + 1 := by
  induction s with
  | nil => rfl
  | cons c s ih =>
    rw [split]
    by_cases hc : c = sep
    · rw [if_pos hc, hc, List.count_cons_self, List.length_cons, ih]
    · rw [if_neg hc, List.count_cons_of_ne hc, ← ih]
      cases hs : split sep s with
      | nil => exact absurd hs (split_ne_nil sep s)
      | cons first parts => rfl

/-! ### Paths -/

def slash : CodePoint := ofChar '/'

/-- `os.path.dirname(p)`. -/
def dirname (p : Str) : Str :=
  let head := (p.reverse.dropWhile (· ≠ slash)).reverse
  let stripped := (head.reverse.dropWhile (· = slash)).reverse
  if stripped = [] then head else stripped

end Py
