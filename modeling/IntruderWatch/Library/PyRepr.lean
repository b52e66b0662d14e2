import IntruderWatch.Library.PyJson

/-!
# The text of Python values

`repr(x)` and `str(x)` of the values that `json.loads` builds, and `json.dumps(x)` with its
default settings. `printable` is `str.isprintable` on one character, a table of the Unicode
database; containers nested deeper than `limit` raise `RecursionError`.
-/

namespace Py

def hexDigit (n : ℕ) : CodePoint :=
  if n < 10 then digitChar n else codePoint (87 + n)

/-- The last `count` hexadecimal digits of `n`. -/
def hexDigits : ℕ → ℕ → Str
  | 0, _ => []
  | count + 1, n => hexDigits count (n / 16) ++ [hexDigit (n % 16)]

/-- Texts joined by `, `. -/
def joinComma (parts : List Str) : Str :=
  List.intercalate (lit ", ") parts

/-! ### `repr` and `str` -/

section

variable (printable : CodePoint → Bool)

/-- One character of `repr(s)` between the quotes `q`. -/
def reprChar (q c : CodePoint) : Str :=
  let n := c.val
  if c = q ∨ c = backslash then [backslash, c]
  else if n = 9 then lit "\\t"
  else if n = 10 then lit "\\n"
  else if n = 13 then lit "\\r"
  else if n < 32 ∨ n = 127 then lit "\\x" ++ hexDigits 2 n
  else if n < 127 ∨ printable c then [c]
  else if n < 0x100 then lit "\\x" ++ hexDigits 2 n
  else if n < 0x10000 then lit "\\u" ++ hexDigits 4 n
  else lit "\\U" ++ hexDigits 8 n

def apostrophe : CodePoint := ofChar '\''

def strRepr (s : Str) : Str :=
  let q := if apostrophe ∈ s ∧ quote ∉ s then quote else apostrophe
  q :: s.flatMap (reprChar printable q) ++ [q]

mutual

def Json.repr : Json → Str
  | .null => lit "None"
  | .bool b => if b then lit "True" else lit "False"
  | .int n => decimal n.val
  | .float x => floatRepr x
  | .str s => strRepr printable s
  | .arr items => ofChar '[' :: joinComma (reprItems items) ++ [ofChar ']']
  | .obj fields => ofChar '\x7b' :: joinComma (reprFields fields) ++ [ofChar '\x7d']

def reprItems : List Json → List Str
  | [] => []
  | v :: items => v.repr :: reprItems items

def reprFields : List (Str × Json) → List Str
  | [] => []
  | (k, v) :: fields => (strRepr printable k ++ lit ": " ++ v.repr) :: reprFields fields

end

/-- `str(x)`. -/
def Json.toStr (limit : ℕ) : Json → Except Exn Str
  | .str s => .ok s
  | v => if v.depth ≤ limit then .ok (v.repr printable) else .error .recursionError

variable {printable} in
lemma Json.toStr_isOk_iff {limit : ℕ} {v : Json} :
    (∃ text, v.toStr printable limit = .ok text) ↔ v.depth ≤ limit := by
  cases v with
  | str s =>
    constructor
    · intro _
      exact Nat.zero_le _
    · intro _
      exact ⟨s, rfl⟩
  | _ =>
    unfold Json.toStr
    constructor
    · rintro ⟨text, h⟩
      dsimp only at h
      split_ifs at h with hle
      exact hle
    · intro hle
      exact ⟨_, if_pos hle⟩

end

/-- What serves as a dictionary key is no container. -/
lemma Json.depth_of_key {v : Json} {key : Key} (h : v.toKey = .ok key) : v.depth = 0 := by
  cases v with
  | arr => cases h
  | obj => cases h
  | _ => rfl

/-! ### `json.dumps` -/

/-- One character of a string with `ensure_ascii`. -/
def dumpsChar (c : CodePoint) : Str :=
  let n := c.val
  if c = quote ∨ c = backslash then [backslash, c]
  else if 32 ≤ n ∧ n < 127 then [c]
  else if n = 8 then lit "\\b"
  else if n = 9 then lit "\\t"
  else if n = 10 then lit "\\n"
  else if n = 12 then lit "\\f"
  else if n = 13 then lit "\\r"
  else if n < 0x10000 then lit "\\u" ++ hexDigits 4 n
  else
    let v := n - 0x10000
    lit "\\u" ++ hexDigits 4 (0xD800 + v / 0x400) ++ lit "\\u" ++ hexDigits 4 (0xDC00 + v % 0x400)

def dumpsStr (s : Str) : Str :=
  quote :: s.flatMap dumpsChar ++ [quote]

def dumpsFloat : Binary64 → Str
  | .nan => lit "NaN"
  | .inf neg => if neg then lit "-Infinity" else lit "Infinity"
  | x => floatRepr x

mutual

/-- `json.dumps(x)`, for a value within the limit on nesting. -/
def dumps : Json → Str
  | .null => lit "null"
  | .bool b => if b then lit "true" else lit "false"
  | .int n => decimal n.val
  | .float x => dumpsFloat x
  | .str s => dumpsStr s
  | .arr items => ofChar '[' :: joinComma (dumpsItems items) ++ [ofChar ']']
  | .obj fields => ofChar '\x7b' :: joinComma (dumpsFields fields) ++ [ofChar '\x7d']

def dumpsItems : List Json → List Str
  | [] => []
  | v :: items => dumps v :: dumpsItems items

def dumpsFields : List (Str × Json) → List Str
  | [] => []
  | (k, v) :: fields => (dumpsStr k ++ lit ": " ++ dumps v) :: dumpsFields fields

end

end Py
