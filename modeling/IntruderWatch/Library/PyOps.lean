import IntruderWatch.Library.Base64
import IntruderWatch.Library.PyRepr

/-!
# Operators on parsed JSON, words and dates

Truth values, `==`, slices, subscripts and elements of the values that `json.loads` builds, `b64decode` of
such a value, rounding of floats, `str.split()`, `os.path.join`, and the text of a `datetime`.
-/

namespace Py

/-! ### Values -/

/-- `bool(x)`. -/
def Json.truthy : Json → Bool
  | null => false
  | bool b => b
  | int n => n.val ≠ 0
  | float (.finite _ a) => a.val ≠ 0
  | float _ => true
  | str s => s ≠ []
  | arr items => items ≠ []
  | obj fields => fields ≠ []

section Eq

variable (eq : Json → Json → Except Exn Bool)

/-- Elements of containers are first compared by identity, and the parser has one `NaN`. -/
def sameElement : Json → Json → Except Exn Bool
  | .float .nan, .float .nan => .ok true
  | v, w => eq v w

def eqItems : List Json → List Json → Except Exn Bool
  | [], [] => .ok true
  | v :: vs, w :: ws => do
    if ← sameElement eq v w then eqItems vs ws else .ok false
  | _, _ => .ok false

def eqFields (other : List (Str × Json)) : List (Str × Json) → Except Exn Bool
  | [] => .ok true
  | (k, v) :: fields =>
    match getField k other with
    | none => .ok false
    | some w => do
      if ← sameElement eq v w then eqFields other fields else .ok false

end Eq

/-- `==` on values that are not both lists or both dictionaries; a `NaN` differs from itself. -/
def eqScalar (v w : Json) : Bool :=
  match v.toKey, w.toKey with
  | .ok .nan, _ => false
  | .ok key, .ok key' => key = key'
  | _, _ => false

/-- `v == w`, with room for `limit` nested containers. -/
def Json.eqAt : ℕ → Json → Json → Except Exn Bool
  | 0, arr _, arr _ => .error .recursionError
  | 0, obj _, obj _ => .error .recursionError
  | limit + 1, arr vs, arr ws =>
    if vs.length = ws.length then eqItems (eqAt limit) vs ws else .ok false
  | limit + 1, obj fs, obj gs =>
    if fs.length = gs.length then eqFields (eqAt limit) gs fs else .ok false
  | _, v, w => .ok (eqScalar v w)

lemma eqAt_str (limit : ℕ) (s t : Str) : Json.eqAt limit (.str s) (.str t) = .ok (decide (s = t)) := by
  cases limit <;> simp [Json.eqAt, eqScalar, Json.toKey]

/-- `x[:n]`. -/
def Json.takeSlice (n : ℕ) : Json → Except Exn Json
  | str s => .ok (.str (s.take n))
  | arr items => .ok (.arr (items.take n))
  | obj _ => .error .keyError
  | _ => .error .typeError

/-- `d[key]` for a dictionary. -/
def subscript (key : Str) (fields : List (Str × Json)) : Except Exn Json :=
  (getField key fields).elim (.error .keyError) .ok

/-- `v.get(key, default)`, which only a dictionary has. -/
def Json.getOr (key : Str) (v default : Json) : Except Exn Json :=
  match v with
  | .obj fields => .ok ((getField key fields).getD default)
  | _ => .error .attributeError

/-- The elements in `for x in v`. -/
def Json.iterate : Json → Except Exn (List Json)
  | .arr items => .ok items
  | .str s => .ok (s.map (fun c => .str [c]))
  | .obj fields => .ok (fields.map (fun field => .str field.1))
  | _ => .error .typeError

/-- `v == s`. -/
def Json.equalsText (s : Str) : Json → Bool
  | .str s' => s' = s
  | _ => false

/-- `base64.b64decode(x)`. -/
def b64decode : Json → Except Exn (List UInt8)
  | .str s =>
    if isAscii s then
      (Base64.a2b (s.map (fun c => UInt8.ofNat c.val))).elim (.error .binasciiError) .ok
    else .error .valueError
  | _ => .error .typeError

/-- `b64decode` inverts `b64encode`. -/
lemma b64decode_encode (b : List UInt8) :
    b64decode (.str ((Base64.encode b).map (fun c => codePoint c.toNat))) = .ok b := by
  have hval : ∀ c : UInt8, (codePoint c.toNat).val = c.toNat := by
    intro c
    have hlt := c.toNat_lt
    exact codePoint_val (by omega)
  have hascii : isAscii ((Base64.encode b).map (fun c => codePoint c.toNat)) = true := by
    rw [isAscii, List.all_eq_true]
    intro c hc
    obtain ⟨d, hd, rfl⟩ := List.mem_map.mp hc
    have hrange := Base64.encode_range hd
    rw [hval, decide_eq_true_eq]
    omega
  have hbytes : ((Base64.encode b).map (fun c => codePoint c.toNat)).map (fun c => UInt8.ofNat c.val) =
      Base64.encode b := by
    rw [List.map_map]
    conv_rhs => rw [← List.map_id (Base64.encode b)]
    apply List.map_congr_left
    intro c _
    rw [Function.comp_apply, hval, UInt8.ofNat_toNat, id]
  rw [b64decode, if_pos hascii, hbytes, Base64.a2b_encode]
  rfl

/-! ### Floats -/

namespace Binary64

/-- `x > y`. -/
def gt : Binary64 → Binary64 → Bool
  | finite s a, finite t b => signed t b < signed s a
  | inf s, inf t => !s && t
  | inf s, finite _ _ => !s
  | finite _ _, inf t => t
  | _, _ => false

/-- `round(x, digits)`: the float next to the decimal number next to `x`. -/
def round (digits : ℕ) : Binary64 → Binary64
  | finite s a => ofSigned s (roundEven (a.val * 10 ^ digits) / 10 ^ digits)
  | x => x

/-- `max(x, *xs)`, the first of the largest. -/
def maximum (x : Binary64) (xs : List Binary64) : Binary64 :=
  xs.foldl (fun m y => if y.gt m then y else m) x

end Binary64

/-! ### Words and paths -/

/-- `c.isspace()`. -/
def isWhitespace (c : CodePoint) : Bool :=
  let n := c.val
  (9 ≤ n && n ≤ 13) || (28 ≤ n && n ≤ 32) || n ∈ wideSpaces

/-- `s.split()`. -/
def words (s : Str) : List Str :=
  (s.splitOnP isWhitespace).filter (· ≠ [])

/-- The first word of a text that starts with one. -/
lemma words_head {word : Str} (hne : word ≠ []) (hword : ∀ c ∈ word, isWhitespace c = false)
    {c : CodePoint} (hc : isWhitespace c = true) (rest : Str) :
    (words (word ++ c :: rest)).head? = some word := by
  have hsplit : (word ++ c :: rest).splitOnP isWhitespace = word :: rest.splitOnP isWhitespace :=
    List.splitOnP_append_cons_of_forall_mem (by simpa using hword) c hc rest
  rw [words, hsplit]
  simp [hne]

/-- `s.strip()`. -/
def strip (s : Str) : Str :=
  ((s.dropWhile isWhitespace).reverse.dropWhile isWhitespace).reverse

lemma strip_eq_self {s : Str} (h : ∀ c ∈ s, isWhitespace c = false) : strip s = s := by
  have hkeep : ∀ t : Str, (∀ c ∈ t, isWhitespace c = false) → t.dropWhile isWhitespace = t := by
    intro t ht
    cases t with
    | nil => rfl
    | cons c t => rw [List.dropWhile_cons_of_neg (by simp [ht c])]
  rw [strip, hkeep s h, hkeep s.reverse (fun c hc => h c (List.mem_reverse.mp hc)), List.reverse_reverse]

/-- `s.split(sep, 1)`, if the separator occurs. -/
def splitFirst (sep : CodePoint) (s : Str) : Option (Str × Str) :=
  match s.dropWhile (· ≠ sep) with
  | [] => none
  | _ :: rest => some (s.takeWhile (· ≠ sep), rest)

lemma splitFirst_append {sep : CodePoint} {s : Str} (h : sep ∉ s) (rest : Str) :
    splitFirst sep (s ++ sep :: rest) = some (s, rest) := by
  have hs : ∀ c ∈ s, decide (c ≠ sep) = true := by
    intro c hc
    exact decide_eq_true (fun heq => h (heq ▸ hc))
  rw [splitFirst, List.dropWhile_append_of_pos hs, List.takeWhile_append_of_pos hs]
  simp

lemma splitFirst_eq_some {sep : CodePoint} {s before after : Str}
    (h : splitFirst sep s = some (before, after)) : s = before ++ sep :: after ∧ sep ∉ before := by
  rw [splitFirst] at h
  have hsplit := List.takeWhile_append_dropWhile (p := (· ≠ sep)) (l := s)
  cases hdrop : s.dropWhile (· ≠ sep) with
  | nil =>
    rw [hdrop] at h
    cases h
  | cons c rest =>
    rw [hdrop] at h hsplit
    obtain ⟨rfl, rfl⟩ := Prod.mk.inj (Option.some.inj h)
    have hc : c = sep := by
      have hnot := List.head?_dropWhile_not (· ≠ sep) s
      rw [hdrop] at hnot
      simpa using hnot
    rw [hc] at hsplit
    refine ⟨hsplit.symm, ?_⟩
    intro hmem
    simpa using List.all_eq_true.mp List.all_takeWhile sep hmem

/-- `os.path.join(a, b)`. -/
def pathJoin (a b : Str) : Str :=
  if b.head? = some slash then b
  else if a = [] ∨ a.getLast? = some slash then a ++ b
  else a ++ slash :: b

/-! ### Dates -/

/-- A `datetime` of the Unix epoch and later. -/
structure DateTime where
  year : ℕ
  month : ℕ
  day : ℕ
  hour : ℕ
  minute : ℕ
  second : ℕ
  microsecond : ℕ
  bounds : 1970 ≤ year ∧ year ≤ 9999 ∧ 1 ≤ month ∧ month ≤ 12 ∧ 1 ≤ day ∧ day ≤ 31 ∧ hour ≤ 23 ∧
    minute ≤ 59 ∧ second ≤ 59 ∧ microsecond ≤ 999999

/-- The last `width` decimal digits of `n`. -/
def padded : ℕ → ℕ → Str
  | 0, _ => []
  | width + 1, n => padded width (n / 10) ++ [digitChar (n % 10)]

lemma mem_padded {width n : ℕ} {c : CodePoint} (h : c ∈ padded width n) :
    48 ≤ c.val ∧ c.val ≤ 57 := by
  induction width generalizing n with
  | zero => simp [padded] at h
  | succ width ih =>
    rw [padded, List.mem_append, List.mem_singleton] at h
    rcases h with h | rfl
    · exact ih h
    · have hlt : n % 10 < 10 := Nat.mod_lt n (by norm_num)
      rw [digitChar_val hlt]
      omega

namespace DateTime

variable (t : DateTime)

def hyphen : CodePoint := ofChar '-'

/-- The text for `%Y-%m-%d`. -/
def dateText : Str := padded 4 t.year ++ hyphen :: padded 2 t.month ++ hyphen :: padded 2 t.day

/-- The text for `%H:%M:%S.%f`. -/
def timeText : Str :=
  padded 2 t.hour ++ ofChar ':' :: padded 2 t.minute ++ ofChar ':' :: padded 2 t.second ++
    ofChar '.' :: padded 6 t.microsecond

/-- `strftime("%Y-%m-%d %H:%M:%S.%f")`. -/
def text : Str := t.dateText ++ ofChar ' ' :: t.timeText

lemma mem_dateText {c : CodePoint} (h : c ∈ t.dateText) :
    c.val = 45 ∨ (48 ≤ c.val ∧ c.val ≤ 57) := by
  have hhyphen : hyphen.val = 45 := rfl
  simp only [dateText, List.mem_append, List.mem_cons] at h
  rcases h with (h | rfl | h) | rfl | h
  · exact Or.inr (mem_padded h)
  · exact Or.inl rfl
  · exact Or.inr (mem_padded h)
  · exact Or.inl rfl
  · exact Or.inr (mem_padded h)

lemma mem_timeText {c : CodePoint} (h : c ∈ t.timeText) : 46 ≤ c.val ∧ c.val ≤ 58 := by
  have hcolon : (ofChar ':').val = 58 := rfl
  have hdot : (ofChar '.').val = 46 := rfl
  simp only [timeText, List.mem_append, List.mem_cons] at h
  rcases h with ((h | rfl | h) | rfl | h) | rfl | h
  · have hval := mem_padded h
    omega
  · omega
  · have hval := mem_padded h
    omega
  · omega
  · have hval := mem_padded h
    omega
  · omega
  · have hval := mem_padded h
    omega

lemma dateText_ne_nil : t.dateText ≠ [] := by
  simp [dateText]

/-- The date is the first word of a text that starts with it. -/
lemma words_dateText (rest : Str) :
    (words (t.dateText ++ ofChar ' ' :: rest)).head? = some t.dateText := by
  refine words_head t.dateText_ne_nil ?_ (by decide) rest
  intro c hc
  have hval := t.mem_dateText hc
  have hwide : c.val ∉ wideSpaces := by
    intro hmem
    have hall : ∀ n ∈ wideSpaces, 57 < n := by decide
    have := hall _ hmem
    omega
  simp only [isWhitespace, hwide, decide_false, Bool.or_false, Bool.or_eq_false_iff,
    Bool.and_eq_false_iff, decide_eq_false_iff_not]
  omega

/-- `text.split()[0]` is the date. -/
lemma words_text : (words t.text).head? = some t.dateText := t.words_dateText t.timeText

end DateTime

end Py
