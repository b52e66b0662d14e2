import IntruderWatch.Library.PyFloat

/-!
# Python JSON

The values that `json.loads` builds, with `int(x)`, `float(x)` and their use as dictionary keys,
and `json.loads` itself on text, after the scanner of the standard library: `NaN` and the infinities are
accepted, the last of two equal keys wins, an integer may have too many digits, and containers
nested deeper than `limit` raise `RecursionError`. The scanner recurses on fuel; the length of
the text gives enough of it, so that only the exceptions of the standard library come out.
-/

namespace Py

inductive Json
  | null
  | bool (b : Bool)
  | int (n : Integer)
  | float (x : Binary64)
  | str (s : Str)
  | arr (items : List Json)
  | obj (fields : List (Str × Json))

/-! ### Reading values -/

/-- `d.get(key)`. -/
def getField (key : Str) (fields : List (Str × Json)) : Option Json :=
  (fields.find? (fun f => f.1 = key)).map Prod.snd

/-- Assignment to a key of a dictionary. -/
def setField (key : Str) (value : Json) : List (Str × Json) → List (Str × Json)
  | [] => [(key, value)]
  | (k, v) :: fields =>
    if k = key then (key, value) :: fields else (k, v) :: setField key value fields

/-- `int(b)`. -/
def boolInteger (b : Bool) : Integer :=
  smallInteger b.toNat ((Bool.toNat_le b).trans (by norm_num [maxStrDigits]))

/-- `int(x)`. -/
def Json.toInteger : Json → Except Exn Integer
  | bool b => .ok (boolInteger b)
  | int n => .ok n
  | float x => x.toInteger
  | str s => parseInt s
  | _ => .error .typeError

/-- `float(x)`. -/
def Json.toFloat : Json → Except Exn Binary64
  | bool b => Binary64.ofInteger (boolInteger b).val
  | int n => Binary64.ofInteger n.val
  | float x => .ok x
  | str s => parseFloat s
  | _ => .error .typeError

/-- A dictionary key. Numbers are equal by value; the parser has one `NaN` object, which a
dictionary finds by identity. -/
inductive Key
  | none
  | num (q : ℚ)
  | inf (neg : Bool)
  | nan
  | str (s : Str)
deriving DecidableEq

/-- A value as a dictionary key; lists and dictionaries are not hashable. -/
def Json.toKey : Json → Except Exn Key
  | null => .ok .none
  | bool b => .ok (.num b.toNat)
  | int n => .ok (.num n.val)
  | float (.finite neg a) => .ok (.num (Binary64.signed neg a))
  | float (.inf neg) => .ok (.inf neg)
  | float .nan => .ok .nan
  | str s => .ok (.str s)
  | arr _ | obj _ => .error .typeError

mutual

/-- The number of nested containers. -/
def Json.depth : Json → ℕ
  | .arr items => depthItems items + 1
  | .obj fields => depthFields fields + 1
  | _ => 0

def depthItems : List Json → ℕ
  | [] => 0
  | v :: items => max v.depth (depthItems items)

def depthFields : List (Str × Json) → ℕ
  | [] => 0
  | (_, v) :: fields => max v.depth (depthFields fields)

end

/-! ### Strings -/

def quote : CodePoint := ofChar '"'

def backslash : CodePoint := ofChar '\\'

/-- Where the string scanner stands; `high` is a high surrogate from the escape just before. -/
inductive StrScan
  | plain (high : Option CodePoint)
  | escape (high : Option CodePoint)
  | hex (high : Option CodePoint) (count acc : ℕ)

def simpleEscapes : List (CodePoint × CodePoint) :=
  [(quote, quote), (backslash, backslash), (ofChar '/', ofChar '/'), (ofChar 'b', codePoint 8),
    (ofChar 'f', codePoint 12), (ofChar 'n', codePoint 10), (ofChar 'r', codePoint 13),
    (ofChar 't', codePoint 9)]

def hexValue (c : CodePoint) : Option ℕ :=
  let n := c.val
  if 48 ≤ n ∧ n ≤ 57 then some (n - 48)
  else if 97 ≤ n ∧ n ≤ 102 then some (n - 87)
  else if 65 ≤ n ∧ n ≤ 70 then some (n - 55)
  else none

def isHighSurrogate (n : ℕ) : Bool := 0xD800 ≤ n && n < 0xDC00

def isLowSurrogate (n : ℕ) : Bool := 0xDC00 ≤ n && n < 0xE000

def joinSurrogates (high low : ℕ) : CodePoint :=
  codePoint (0x10000 + (high - 0xD800) * 0x400 + (low - 0xDC00))

/-- `scanstring` after the opening quote, in strict mode: the string and the rest. -/
def scanString : Str → StrScan → Option (Str × Str)
  | [], _ => none
  | c :: s, .plain high =>
    if c = quote then some (high.toList, s)
    else if c = backslash then scanString s (.escape high)
    else if c.val < 32 then none
    else (scanString s (.plain none)).map (fun p => (high.toList ++ c :: p.1, p.2))
  | c :: s, .escape high =>
    if c = ofChar 'u' then scanString s (.hex high 0 0)
    else
      match simpleEscapes.find? (fun e => e.1 = c) with
      | none => none
      | some (_, d) => (scanString s (.plain none)).map (fun p => (high.toList ++ d :: p.1, p.2))
  | c :: s, .hex high count acc =>
    match hexValue c with
    | none => none
    | some d =>
      let acc := 16 * acc + d
      if count < 3 then scanString s (.hex high (count + 1) acc)
      else
        match high, isLowSurrogate acc with
        | some h, true =>
          (scanString s (.plain none)).map (fun p => (joinSurrogates h.val acc :: p.1, p.2))
        | _, _ =>
          if isHighSurrogate acc then
            (scanString s (.plain (some (codePoint acc)))).map
              (fun p => (high.toList ++ p.1, p.2))
          else
            (scanString s (.plain none)).map
              (fun p => (high.toList ++ codePoint acc :: p.1, p.2))

/-! ### Numbers and constants -/

def constants : List (Str × Json) :=
  [(lit "null", .null), (lit "true", .bool true), (lit "false", .bool false),
    (lit "NaN", .float .nan), (lit "Infinity", .float (.inf false)),
    (lit "-Infinity", .float (.inf true))]

def scanConstant (s : Str) : Option (Json × Str) :=
  (constants.find? (fun c => c.1.isPrefixOf s)).map (fun c => (c.2, s.drop c.1.length))

def isDigitChar (c : CodePoint) : Bool := isDigit c.val

/-- The digits before the point: a single `0`, or digits that start with another one. -/
def matchDigits : Str → Option (Str × Str)
  | [] => none
  | c :: s =>
    if c = ofChar '0' then some ([c], s)
    else if isDigitChar c then some ((c :: s).span isDigitChar)
    else none

def matchFraction : Str → Str × Str
  | c :: d :: s =>
    if c = ofChar '.' ∧ isDigitChar d then
      let (ds, rest) := (d :: s).span isDigitChar
      (c :: ds, rest)
    else ([], c :: d :: s)
  | s => ([], s)

def matchSign : Str → Str × Str
  | c :: s => if c = minus ∨ c = ofChar '+' then ([c], s) else ([], c :: s)
  | [] => ([], [])

def matchExponent : Str → Str × Str
  | c :: s =>
    let (sign, ds) := matchSign s
    let (ds, rest) := ds.span isDigitChar
    if (c = ofChar 'e' ∨ c = ofChar 'E') ∧ ds ≠ [] then (c :: sign ++ ds, rest)
    else ([], c :: s)
  | [] => ([], [])

/-- `_match_number_unicode`. -/
def matchNumber (s : Str) : Except Exn (Json × Str) :=
  let (sign, digits) := if s.head? = some minus then ([minus], s.drop 1) else ([], s)
  match matchDigits digits with
  | none => .error .jsonDecodeError
  | some (whole, s) =>
    let (fraction, s) := matchFraction s
    let (exponent, s) := matchExponent s
    if fraction = [] ∧ exponent = [] then do
      let n ← parseInt (sign ++ whole)
      .ok (.int n, s)
    else do
      let x ← parseFloat (sign ++ whole ++ fraction ++ exponent)
      .ok (.float x, s)

/-! ### Values -/

def isJsonSpace (c : CodePoint) : Bool :=
  c.val = 32 || c.val = 9 || c.val = 10 || c.val = 13

def skipSpace (s : Str) : Str := s.dropWhile isJsonSpace

/-- Reads the delimiter `c`. -/
def expectChar (c : CodePoint) : Str → Except Exn Str
  | [] => .error .jsonDecodeError
  | d :: s => if d = c then .ok s else .error .jsonDecodeError

def expectString (s : Str) : Except Exn (Str × Str) :=
  (scanString s (.plain none)).elim (.error .jsonDecodeError) .ok

mutual

/-- `scan_once_unicode`, with room for `depth` more nested containers. -/
def scanOnce : ℕ → ℕ → Str → Except Exn (Json × Str)
  | 0, _, _ => .error .other
  | _ + 1, _, [] => .error .jsonDecodeError
  | fuel + 1, depth, c :: s =>
    if c = quote then do
      let (value, s) ← expectString s
      .ok (.str value, s)
    else if c = ofChar '\x7b' then
      match depth, skipSpace s with
      | 0, _ => .error .recursionError
      | depth + 1, s =>
        if s.head? = some (ofChar '\x7d') then .ok (.obj [], s.drop 1)
        else parseObject fuel depth [] s
    else if c = ofChar '[' then
      match depth, skipSpace s with
      | 0, _ => .error .recursionError
      | depth + 1, s =>
        if s.head? = some (ofChar ']') then .ok (.arr [], s.drop 1)
        else parseArray fuel depth [] s
    else
      match scanConstant (c :: s) with
      | some r => .ok r
      | none => matchNumber (c :: s)

/-- The loop of `_parse_object_unicode`. -/
def parseObject : ℕ → ℕ → List (Str × Json) → Str → Except Exn (Json × Str)
  | 0, _, _, _ => .error .other
  | fuel + 1, depth, fields, s => do
    let s ← expectChar quote s
    let (key, s) ← expectString s
    let s ← expectChar (ofChar ':') (skipSpace s)
    let (value, s) ← scanOnce fuel depth (skipSpace s)
    let fields := setField key value fields
    match skipSpace s with
    | [] => .error .jsonDecodeError
    | c :: s =>
      if c = ofChar '\x7d' then .ok (.obj fields, s)
      else if c = ofChar ',' then parseObject fuel depth fields (skipSpace s)
      else .error .jsonDecodeError

/-- The loop of `_parse_array_unicode`. -/
def parseArray : ℕ → ℕ → List Json → Str → Except Exn (Json × Str)
  | 0, _, _, _ => .error .other
  | fuel + 1, depth, items, s => do
    let (value, s) ← scanOnce fuel depth s
    let items := items ++ [value]
    match skipSpace s with
    | [] => .error .jsonDecodeError
    | c :: s =>
      if c = ofChar ']' then .ok (.arr items, s)
      else if c = ofChar ',' then parseArray fuel depth items (skipSpace s)
      else .error .jsonDecodeError

end

def byteOrderMark : CodePoint := ⟨0xFEFF, by norm_num⟩

/-- `json.loads(s)`. -/
def loads (limit : ℕ) (s : Str) : Except Exn Json :=
  if s.head? = some byteOrderMark then .error .jsonDecodeError
  else do
    let s := skipSpace s
    let (value, rest) ← scanOnce (2 * s.length + 1) limit s
    if skipSpace rest = [] then .ok value else .error .jsonDecodeError

/-! ### The exceptions of `loads` -/

/-- What a scanner does on a text of length `n`: it consumes something, or it raises one of the
three exceptions of `json.loads`. -/
def ScanResult {α : Type} (n : ℕ) : Except Exn (α × Str) → Prop
  | .ok (_, rest) => rest.length < n
  | .error e => e = .jsonDecodeError ∨ e = .valueError ∨ e = .recursionError

lemma length_skipSpace (s : Str) : (skipSpace s).length ≤ s.length :=
  (List.dropWhile_sublist isJsonSpace).length_le

lemma scanString_length {s : Str} {st : StrScan} {v rest : Str}
    (h : scanString s st = some (v, rest)) : rest.length < s.length := by
  induction s generalizing st v with
  | nil =>
    rw [scanString] at h
    cases h
  | cons c s ih =>
    -- every branch but the closing quote scans on behind `c`
    have hnext : ∀ (st : StrScan) (v : Str), scanString s st = some (v, rest) →
        rest.length < (c :: s).length := by
      intro st v hs
      have hlt := ih hs
      rw [List.length_cons]
      omega
    have hmap : ∀ (st : StrScan) (f : Str × Str → Str),
        (scanString s st).map (fun p => (f p, p.2)) = some (v, rest) →
        rest.length < (c :: s).length := by
      intro st f hs
      obtain ⟨⟨v', rest'⟩, hscan, heq⟩ := Option.map_eq_some_iff.mp hs
      obtain ⟨-, rfl⟩ := Prod.mk.inj heq
      exact hnext st v' hscan
    cases st with
    | plain high =>
      rw [scanString] at h
      split_ifs at h
      · obtain ⟨-, rfl⟩ := Prod.mk.inj (Option.some.inj h)
        simp
      · exact hnext _ _ h
      · exact hmap _ _ h
    | escape high =>
      rw [scanString] at h
      split_ifs at h
      · exact hnext _ _ h
      · split at h
        · cases h
        · exact hmap _ _ h
    | hex high count acc =>
      rw [scanString] at h
      split at h
      · cases h
      · dsimp only at h
        split at h
        · exact hnext _ _ h
        · split at h
          · exact hmap _ _ h
          · split at h
            · exact hmap _ _ h
            · exact hmap _ _ h

lemma expectString_result (s : Str) : ScanResult s.length (expectString s) := by
  unfold expectString
  cases h : scanString s (.plain none) with
  | none => exact Or.inl rfl
  | some p => exact scanString_length h

lemma parseFloat_error {s : Str} {e : Exn} (h : parseFloat s = .error e) : e = .valueError := by
  unfold parseFloat at h
  dsimp only at h
  split at h
  · exact (Except.error.inj h).symm
  · split at h
    · cases h
    · split_ifs at h
      exact (Except.error.inj h).symm

lemma length_span_snd (p : CodePoint → Bool) (s : Str) : (s.span p).2.length ≤ s.length := by
  rw [List.span_eq_takeWhile_dropWhile]
  exact (List.dropWhile_sublist p).length_le

lemma matchDigits_length {s v rest : Str} (h : matchDigits s = some (v, rest)) :
    rest.length < s.length := by
  cases s with
  | nil => cases h
  | cons c s =>
    rw [matchDigits] at h
    split_ifs at h with h0 hd
    · obtain ⟨-, rfl⟩ := Prod.mk.inj (Option.some.inj h)
      simp
    · rw [List.span_eq_takeWhile_dropWhile, List.dropWhile_cons, if_pos hd] at h
      obtain ⟨-, rfl⟩ := Prod.mk.inj (Option.some.inj h)
      have hle := (List.dropWhile_sublist (l := s) isDigitChar).length_le
      rw [List.length_cons]
      omega

lemma matchFraction_length (s : Str) : (matchFraction s).2.length ≤ s.length := by
  unfold matchFraction
  split
  · split_ifs
    · next c d s _ =>
      have hle := length_span_snd isDigitChar (d :: s)
      rw [List.length_cons]
      dsimp only
      omega
    · exact le_rfl
  · exact le_rfl

lemma matchExponent_length (s : Str) : (matchExponent s).2.length ≤ s.length := by
  cases s with
  | nil => exact le_rfl
  | cons c s =>
    have hsign : (matchSign s).2.length ≤ s.length := by
      cases s with
      | nil => exact le_rfl
      | cons d s =>
        rw [matchSign]
        split_ifs <;> simp
    rw [matchExponent]
    dsimp only
    split_ifs
    · have hle := length_span_snd isDigitChar (matchSign s).2
      rw [List.length_cons]
      dsimp only
      omega
    · exact le_rfl

lemma scanConstant_length {s rest : Str} {v : Json} (h : scanConstant s = some (v, rest)) :
    rest.length < s.length := by
  obtain ⟨⟨word, value⟩, hfind, heq⟩ := Option.map_eq_some_iff.mp h
  obtain ⟨-, rfl⟩ := Prod.mk.inj heq
  have hfound : word.isPrefixOf s = true := by simpa using List.find?_some hfind
  have hprefix : word <+: s := List.isPrefixOf_iff_prefix.mp hfound
  have hword : 0 < word.length := by
    have hmem := List.mem_of_find?_eq_some hfind
    have hall : ∀ c ∈ constants, 0 < c.1.length := by
      simp [constants, lit]
    exact hall _ hmem
  have hle := hprefix.length_le
  rw [List.length_drop]
  dsimp only
  omega

lemma matchNumber_result (s : Str) : ScanResult s.length (matchNumber s) := by
  unfold matchNumber
  generalize hsign : (if s.head? = some minus then ([minus], s.drop 1) else ([], s)) = p
  have hlen : p.2.length ≤ s.length := by
    rw [← hsign]
    split_ifs <;> simp
  obtain ⟨sign, digits⟩ := p
  dsimp only at hlen ⊢
  cases hd : matchDigits digits with
  | none => exact Or.inl rfl
  | some q =>
    obtain ⟨whole, s₁⟩ := q
    have h1 := matchDigits_length hd
    have h2 := matchFraction_length s₁
    have h3 := matchExponent_length (matchFraction s₁).2
    dsimp only
    split_ifs
    · cases hn : parseInt (sign ++ whole) with
      | ok n =>
        change (matchExponent (matchFraction s₁).2).2.length < s.length
        omega
      | error e => exact Or.inr (Or.inl (parseInt_error hn))
    · generalize hx : parseFloat (sign ++ whole ++ (matchFraction s₁).1 ++
        (matchExponent (matchFraction s₁).2).1) = x
      cases x with
      | ok x =>
        change (matchExponent (matchFraction s₁).2).2.length < s.length
        omega
      | error e => exact Or.inr (Or.inl (parseFloat_error hx))

/-! ### Fuel -/

section Bind

variable {α β : Type} {n : ℕ}

lemma ScanResult.mono {m : ℕ} {r : Except Exn (α × Str)} (h : ScanResult m r) (hmn : m ≤ n) :
    ScanResult n r := by
  cases r with
  | ok p => exact lt_of_lt_of_le h hmn
  | error e => exact h

/-- A scanner followed by another one. -/
lemma ScanResult.bind {m : ℕ} {r : Except Exn (α × Str)} {f : α × Str → Except Exn (β × Str)}
    (h : ScanResult m r) (hf : ∀ a rest, rest.length < m → ScanResult n (f (a, rest))) :
    ScanResult n (r >>= f) := by
  cases r with
  | ok p => exact hf p.1 p.2 h
  | error e => exact h

/-- A delimiter followed by a scanner. -/
lemma expectChar_bind {c : CodePoint} {s : Str} {f : Str → Except Exn (β × Str)}
    (hf : ∀ rest, rest.length < s.length → ScanResult n (f rest)) :
    ScanResult n (expectChar c s >>= f) := by
  cases s with
  | nil => exact Or.inl rfl
  | cons d s =>
    rw [expectChar]
    split_ifs
    · exact hf s (by simp)
    · exact Or.inl rfl

end Bind

/-- With this fuel the three scanners behave as those of the standard library on every text that
is short enough. -/
structure EnoughFuel (fuel : ℕ) : Prop where
  once : ∀ depth s, 2 * s.length + 1 ≤ fuel → ScanResult s.length (scanOnce fuel depth s)
  object : ∀ depth fields s, 2 * s.length + 2 ≤ fuel →
    ScanResult s.length (parseObject fuel depth fields s)
  array : ∀ depth items s, 2 * s.length + 2 ≤ fuel →
    ScanResult s.length (parseArray fuel depth items s)

section Fuel

variable {fuel : ℕ} {s : Str}

lemma EnoughFuel.scanOnce_succ (h : EnoughFuel fuel) (depth : ℕ) (hfuel : 2 * s.length + 1 ≤ fuel + 1) :
    ScanResult s.length (scanOnce (fuel + 1) depth s) := by
  cases s with
  | nil => exact Or.inl rfl
  | cons c s =>
    rw [List.length_cons] at hfuel ⊢
    have hskip := length_skipSpace s
    have hempty : ((skipSpace s).drop 1).length < s.length + 1 := by
      rw [List.length_drop]
      omega
    rw [scanOnce.eq_def]
    dsimp only
    split_ifs
    · apply (expectString_result s).bind
      intro a rest hrest
      change rest.length < s.length + 1
      omega
    · cases depth with
      | zero => exact Or.inr (Or.inr rfl)
      | succ depth =>
        dsimp only
        split_ifs
        · exact hempty
        · exact (h.object depth [] (skipSpace s) (by omega)).mono (by omega)
    · cases depth with
      | zero => exact Or.inr (Or.inr rfl)
      | succ depth =>
        dsimp only
        split_ifs
        · exact hempty
        · exact (h.array depth [] (skipSpace s) (by omega)).mono (by omega)
    · split
      · next r hr => exact scanConstant_length hr
      · exact matchNumber_result (c :: s)

lemma EnoughFuel.parseObject_succ (h : EnoughFuel fuel) (depth : ℕ) (fields : List (Str × Json))
    (hfuel : 2 * s.length + 2 ≤ fuel + 1) :
    ScanResult s.length (parseObject (fuel + 1) depth fields s) := by
  rw [parseObject]
  apply expectChar_bind
  intro s₁ h1
  apply ((expectString_result s₁).mono h1.le).bind
  intro key s₂ h2
  apply expectChar_bind
  intro s₃ h3
  have hskip2 := length_skipSpace s₂
  have hskip3 := length_skipSpace s₃
  apply (h.once depth (skipSpace s₃) (by omega)).bind
  intro value s₄ h4
  have hskip4 := length_skipSpace s₄
  dsimp only
  split
  · exact Or.inl rfl
  · next c s₅ h5 =>
    rw [h5, List.length_cons] at hskip4
    have hskip5 := length_skipSpace s₅
    split_ifs
    · change s₅.length < s.length
      omega
    · exact (h.object depth _ (skipSpace s₅) (by omega)).mono (by omega)
    · exact Or.inl rfl

lemma EnoughFuel.parseArray_succ (h : EnoughFuel fuel) (depth : ℕ) (items : List Json)
    (hfuel : 2 * s.length + 2 ≤ fuel + 1) :
    ScanResult s.length (parseArray (fuel + 1) depth items s) := by
  rw [parseArray]
  apply (h.once depth s (by omega)).bind
  intro value s₁ h1
  have hskip1 := length_skipSpace s₁
  dsimp only
  split
  · exact Or.inl rfl
  · next c s₂ h2 =>
    rw [h2, List.length_cons] at hskip1
    have hskip2 := length_skipSpace s₂
    split_ifs
    · change s₂.length < s.length
      omega
    · exact (h.array depth _ (skipSpace s₂) (by omega)).mono (by omega)
    · exact Or.inl rfl

end Fuel

/-- Every recursive call of the scanners is on a shorter text, so fuel never runs out. -/
theorem enoughFuel (fuel : ℕ) : EnoughFuel fuel := by
  induction fuel with
  | zero =>
    constructor
    · intro depth s hfuel
      omega
    · intro depth fields s hfuel
      omega
    · intro depth items s hfuel
      omega
  | succ fuel ih =>
    constructor
    · intro depth s
      exact ih.scanOnce_succ depth
    · intro depth fields s
      exact ih.parseObject_succ depth fields
    · intro depth items s
      exact ih.parseArray_succ depth items

/-- The exceptions that come out of `json.loads`. -/
theorem loads_error {limit : ℕ} {s : Str} {e : Exn} (h : loads limit s = .error e) :
    e = .jsonDecodeError ∨ e = .valueError ∨ e = .recursionError := by
  unfold loads at h
  split_ifs at h
  · exact Or.inl (Except.error.inj h).symm
  · have hscan := (enoughFuel (2 * (skipSpace s).length + 1)).once limit (skipSpace s) le_rfl
    dsimp only at h
    cases hr : scanOnce (2 * (skipSpace s).length + 1) limit (skipSpace s) with
    | error e' =>
      rw [hr] at h hscan
      obtain rfl := Except.error.inj h
      exact hscan
    | ok p =>
      obtain ⟨value, rest⟩ := p
      rw [hr] at h
      simp only [bind, Except.bind] at h
      split_ifs at h
      exact Or.inl (Except.error.inj h).symm

end Py
