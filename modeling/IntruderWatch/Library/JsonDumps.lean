import IntruderWatch.Library.FloatText
import IntruderWatch.Library.PyRepr

/-!
# `json.loads` inverts `json.dumps`

The writer escapes every character outside ASCII, and one beyond the basic plane by two escapes. So
a string is read back unless it has a high surrogate in front of a low one, which the reader joins.
-/

namespace Py

/-! ### Escapes -/

lemma hexDigit_val {n : ℕ} (hn : n < 16) :
    (hexDigit n).val = if n < 10 then 48 + n else 87 + n := by
  unfold hexDigit
  split_ifs with h
  · exact digitChar_val h
  · exact codePoint_val (by omega)

lemma hexValue_hexDigit {n : ℕ} (hn : n < 16) : hexValue (hexDigit n) = some n := by
  have hval := hexDigit_val hn
  unfold hexValue
  dsimp only
  rw [hval]
  split_ifs with h h1 h2 h3 h4
  all_goals first | omega | exact congrArg some (by omega)

/-- After the four digits of an escape the scanner has their value. -/
lemma scanString_hexDigits {n : ℕ} (hn : n < 0x10000) (high : Option CodePoint) (s : Str) :
    scanString (hexDigits 4 n ++ s) (.hex high 0 0) =
      match high, isLowSurrogate n with
      | some h, true =>
        (scanString s (.plain none)).map (fun p => (joinSurrogates h.val n :: p.1, p.2))
      | _, _ =>
        if isHighSurrogate n then
          (scanString s (.plain (some (codePoint n)))).map (fun p => (high.toList ++ p.1, p.2))
        else
          (scanString s (.plain none)).map (fun p => (high.toList ++ codePoint n :: p.1, p.2)) := by
  have hdigits : hexDigits 4 n ++ s = hexDigit (n / 16 / 16 / 16 % 16) :: hexDigit (n / 16 / 16 % 16) ::
      hexDigit (n / 16 % 16) :: hexDigit (n % 16) :: s := rfl
  have hvalue : 16 * (16 * (16 * (16 * 0 + n / 16 / 16 / 16 % 16) + n / 16 / 16 % 16) + n / 16 % 16) +
      n % 16 = n := by omega
  have hread := fun m => hexValue_hexDigit (Nat.mod_lt m (by norm_num : 16 > 0))
  rw [hdigits]
  cases high with
  | none => simp only [scanString, hread, Nat.reduceLT, Nat.reduceAdd, if_true, if_false, hvalue]
  | some h =>
    cases hlow : isLowSurrogate n with
    | false =>
      simp only [scanString, hread, Nat.reduceLT, Nat.reduceAdd, if_true, if_false, hvalue, hlow]
    | true =>
      simp only [scanString, hread, Nat.reduceLT, Nat.reduceAdd, if_true, if_false, hvalue, hlow]

/-- One escape. -/
def escapeText (n : ℕ) : Str := lit "\\u" ++ hexDigits 4 n

lemma scanString_escape (n : ℕ) (high : Option CodePoint) (s : Str) :
    scanString (escapeText n ++ s) (.plain high) = scanString (hexDigits 4 n ++ s) (.hex high 0 0) := by
  have htext : escapeText n ++ s = backslash :: ofChar 'u' :: (hexDigits 4 n ++ s) := rfl
  rw [htext, scanString, if_neg (by decide), if_pos rfl, scanString, if_pos rfl]

lemma codePoint_of_val {c : CodePoint} {n : ℕ} (h : n = c.val) : codePoint n = c := by
  apply Fin.ext
  rw [codePoint_val (by omega), h]

/-- The characters behind a pending high surrogate `high`, which a low one would join. -/
def Scans (high : Option CodePoint) (c : CodePoint) (t : Str) : Prop :=
  ∀ s, scanString (t ++ s) (.plain high) =
    if isHighSurrogate c.val then
      (scanString s (.plain (some c))).map (fun p => (high.toList ++ p.1, p.2))
    else (scanString s (.plain none)).map (fun p => (high.toList ++ c :: p.1, p.2))

lemma scans_simple {c d : CodePoint} (high : Option CodePoint)
    (hd : simpleEscapes.find? (fun e => e.1 = d) = some (d, c)) (hu : d ≠ ofChar 'u')
    (hc : isHighSurrogate c.val = false) : Scans high c [backslash, d] := by
  intro s
  have htext : [backslash, d] ++ s = backslash :: d :: s := rfl
  rw [htext, scanString, if_neg (by decide), if_pos rfl, scanString, if_neg hu, hd, hc,
    if_neg Bool.false_ne_true]

lemma scans_plain {c : CodePoint} (high : Option CodePoint) (hplain : IsPlain c)
    (hc : isHighSurrogate c.val = false) : Scans high c [c] := by
  intro s
  obtain ⟨hquote, hbackslash, hcontrol⟩ := hplain
  rw [List.singleton_append, scanString, if_neg hquote, if_neg hbackslash, if_neg (by omega), hc,
    if_neg Bool.false_ne_true]

lemma scans_escape {c : CodePoint} {high : Option CodePoint} (hn : c.val < 0x10000)
    (hpair : high ≠ none → isLowSurrogate c.val = false) : Scans high c (escapeText c.val) := by
  intro s
  rw [scanString_escape, scanString_hexDigits hn, codePoint_of_val rfl]
  cases high with
  | none => rfl
  | some h =>
    rw [hpair (Option.some_ne_none h)]

lemma scans_pair {c : CodePoint} (high : Option CodePoint) (hn : 0x10000 ≤ c.val) :
    Scans high c (escapeText (0xD800 + (c.val - 0x10000) / 0x400) ++
      escapeText (0xDC00 + (c.val - 0x10000) % 0x400)) := by
  intro s
  have hlt := c.isLt
  set first := 0xD800 + (c.val - 0x10000) / 0x400 with hfirst
  set second := 0xDC00 + (c.val - 0x10000) % 0x400 with hsecond
  have hhigh : isHighSurrogate first = true ∧ isLowSurrogate first = false := by
    simp only [isHighSurrogate, isLowSurrogate, Bool.and_eq_true, Bool.and_eq_false_iff,
      decide_eq_true_eq, decide_eq_false_iff_not]
    omega
  have hlow : isLowSurrogate second = true := by
    simp only [isLowSurrogate, Bool.and_eq_true, decide_eq_true_eq]
    omega
  have hnot : isHighSurrogate c.val = false := by
    simp only [isHighSurrogate, Bool.and_eq_false_iff, decide_eq_false_iff_not]
    omega
  have hfirst' : (codePoint first).val = first := codePoint_val (by omega)
  have hjoin : joinSurrogates first second = c := by
    apply codePoint_of_val
    omega
  rw [List.append_assoc, scanString_escape, scanString_hexDigits (by omega), hhigh.1, hhigh.2]
  have hnext : scanString (escapeText second ++ s) (.plain (some (codePoint first))) =
      (scanString s (.plain none)).map (fun p => (c :: p.1, p.2)) := by
    rw [scanString_escape, scanString_hexDigits (by omega), hlow]
    dsimp only
    rw [hfirst', hjoin]
  rw [hnot, if_neg Bool.false_ne_true]
  cases high with
  | none =>
    dsimp only
    rw [if_pos rfl, hnext, Option.map_map]
    rfl
  | some h =>
    dsimp only
    rw [if_pos rfl, hnext, Option.map_map]
    rfl

lemma scans_dumpsChar {c : CodePoint} {high : Option CodePoint}
    (hpair : high ≠ none → isLowSurrogate c.val = false) : Scans high c (dumpsChar c) := by
  have hascii : c.val < 0xD800 → isHighSurrogate c.val = false := by
    intro h
    simp only [isHighSurrogate, Bool.and_eq_false_iff, decide_eq_false_iff_not]
    omega
  have hcontrol : ∀ (n : ℕ) (d : Char), c.val = n → simpleEscapes.find? (fun e => e.1 = ofChar d) =
      some (ofChar d, codePoint n) → ofChar d ≠ ofChar 'u' → n < 0xD800 →
      Scans high c [backslash, ofChar d] := by
    intro n d hval hfind hu hn
    have hc : codePoint n = c := codePoint_of_val hval.symm
    exact scans_simple high (hc ▸ hfind) hu (hascii (by omega))
  unfold dumpsChar
  dsimp only
  split_ifs with h1 h2 h3 h4 h5 h6 h7 h8
  · have hval : c.val = 34 ∨ c.val = 92 := h1.imp (congrArg Fin.val) (congrArg Fin.val)
    have hc := hascii (by omega)
    rcases h1 with rfl | rfl
    · exact scans_simple high rfl (by decide) hc
    · exact scans_simple high rfl (by decide) hc
  · rw [not_or] at h1
    exact scans_plain high ⟨h1.1, h1.2, h2.1⟩ (hascii (by omega))
  · exact hcontrol 8 'b' h3 rfl (by decide) (by norm_num)
  · exact hcontrol 9 't' h4 rfl (by decide) (by norm_num)
  · exact hcontrol 10 'n' h5 rfl (by decide) (by norm_num)
  · exact hcontrol 12 'f' h6 rfl (by decide) (by norm_num)
  · exact hcontrol 13 'r' h7 rfl (by decide) (by norm_num)
  · exact scans_escape h8 hpair
  · have h := scans_pair high (by omega : 0x10000 ≤ c.val)
    rw [escapeText, escapeText, ← List.append_assoc] at h
    exact h

/-! ### Strings -/

/-- No high surrogate stands in front of a low one. -/
def NoPairs (s : Str) : Prop :=
  s.IsChain (fun c d => ¬ (isHighSurrogate c.val = true ∧ isLowSurrogate d.val = true))

lemma scanString_dumps {s : Str} {high : Option CodePoint} (h : NoPairs (high.toList ++ s))
    (hhigh : ∀ c ∈ high, isHighSurrogate c.val = true) (tail : Str) :
    scanString (s.flatMap dumpsChar ++ quote :: tail) (.plain high) = some (high.toList ++ s, tail) := by
  induction s generalizing high with
  | nil =>
    rw [List.flatMap_nil, List.nil_append, scanString, if_pos rfl, List.append_nil]
  | cons c s ih =>
    have hpair : high ≠ none → isLowSurrogate c.val = false := by
      intro hne
      obtain ⟨d, rfl⟩ := Option.ne_none_iff_exists'.mp hne
      have hchain := (List.isChain_cons_cons.mp h).1
      rw [not_and, Bool.not_eq_true] at hchain
      exact hchain (hhigh d rfl)
    have hrest : NoPairs (c :: s) := h.right_of_append
    rw [List.flatMap_cons, List.append_assoc, scans_dumpsChar hpair]
    by_cases hc : isHighSurrogate c.val = true
    · have hind := @ih (some c) hrest (by
        rintro d hd
        obtain rfl := Option.some.inj hd
        exact hc)
      rw [if_pos hc, hind]
      rfl
    · have hind := @ih none hrest.tail (by simp)
      rw [if_neg hc, hind]
      rfl

lemma readsString_dumps {s : Str} (h : NoPairs s) : ReadsString (dumpsStr s) s := by
  refine ⟨s.flatMap dumpsChar ++ [quote], rfl, ?_⟩
  intro tail
  have hscan := @scanString_dumps s none h (by simp) tail
  rw [List.append_assoc, List.singleton_append, expectString, hscan]
  rfl

/-! ### Arrays and objects -/

lemma blank_isSpace : ∀ c ∈ [ofChar ' '], isJsonSpace c := by
  intro c hc
  rw [List.mem_singleton.mp hc]
  rfl

lemma Reads.arrNil {depth : ℕ} : Reads (depth + 1) (lit "[]") (.arr []) where
  starts := ⟨ofChar '[', [closeBracket], rfl, by decide, by decide, by decide⟩
  scan := by
    intro fuel tail _ _
    rw [scanOnce.eq_def]
    rfl

lemma Reads.objNil {depth : ℕ} : Reads (depth + 1) (lit "\x7b\x7d") (.obj []) where
  starts := ⟨ofChar '\x7b', [closeBrace], rfl, by decide, by decide, by decide⟩
  scan := by
    intro fuel tail _ _
    rw [scanOnce.eq_def]
    rfl

/-! ### Whole values -/

mutual

/-- The keys of each object are distinct, and no string has a surrogate pair in two characters. -/
def Json.WellFormed : Json → Prop
  | .str s => NoPairs s
  | .arr items => itemsWellFormed items
  | .obj fields => (fields.map Prod.fst).Nodup ∧ fieldsWellFormed fields
  | _ => True

def itemsWellFormed : List Json → Prop
  | [] => True
  | v :: items => v.WellFormed ∧ itemsWellFormed items

def fieldsWellFormed : List (Str × Json) → Prop
  | [] => True
  | (k, v) :: fields => NoPairs k ∧ v.WellFormed ∧ fieldsWellFormed fields

end

lemma dumpsItems_eq (items : List Json) : dumpsItems items = items.map dumps := by
  induction items with
  | nil => rfl
  | cons v items ih => rw [dumpsItems, ih, List.map_cons]

lemma dumpsFields_eq (fields : List (Str × Json)) :
    dumpsFields fields = fields.map (fun f => fieldWith [ofChar ' '] dumpsStr (f.1, dumps f.2, f.2)) := by
  induction fields with
  | nil => rfl
  | cons f fields ih =>
    obtain ⟨k, v⟩ := f
    rw [dumpsFields, ih, List.map_cons]
    rfl

lemma Reads.constant {depth : ℕ} {t : Str} {v : Json} {c : CodePoint} {s : Str} (ht : t = c :: s)
    (hc : c.val < 128 ∧ isJsonSpace c = false ∧ c ≠ closeBracket)
    (hscan : ∀ fuel tail, scanOnce (fuel + 1) depth (t ++ tail) = .ok (v, tail)) : Reads depth t v :=
  ⟨⟨c, s, ht, hc⟩, fun fuel tail _ _ => hscan fuel tail⟩

theorem Reads.dumpsFloat {depth : ℕ} (x : Binary64) : Reads depth (dumpsFloat x) (.float x) := by
  cases x with
  | nan =>
    refine Reads.constant (c := ofChar 'N') (s := lit "aN") rfl (by decide) (fun fuel tail => ?_)
    rw [scanOnce.eq_def]
    rfl
  | inf neg =>
    cases neg with
    | true =>
      refine Reads.constant (c := minus) (s := lit "Infinity") rfl (by decide) (fun fuel tail => ?_)
      rw [scanOnce.eq_def]
      rfl
    | false =>
      refine Reads.constant (c := ofChar 'I') (s := lit "nfinity") rfl (by decide) (fun fuel tail => ?_)
      rw [scanOnce.eq_def]
      rfl
  | finite neg a => exact Reads.float neg a

lemma Reads.bool {depth : ℕ} (b : Bool) : Reads depth (if b then lit "true" else lit "false") (.bool b) := by
  cases b with
  | true => exact Reads.true
  | false =>
    refine Reads.constant (c := ofChar 'f') (s := lit "alse") rfl (by decide) (fun fuel tail => ?_)
    rw [scanOnce.eq_def]
    rfl

lemma Reads.null {depth : ℕ} : Reads depth (lit "null") .null := by
  refine Reads.constant (c := ofChar 'n') (s := lit "ull") rfl (by decide) (fun fuel tail => ?_)
  rw [scanOnce.eq_def]
  rfl

lemma reads_dumpsArr {depth : ℕ} {items : List Json} (h : ∀ v ∈ items, Reads depth (dumps v) v) :
    Reads (depth + 1) (dumps (.arr items)) (.arr items) := by
  rw [dumps, dumpsItems_eq]
  cases items with
  | nil => exact Reads.arrNil
  | cons v items =>
    have hread := @Reads.arr depth ((v :: items).map (fun w => (dumps w, w))) _ blank_isSpace (by simp) (by
      intro p hp
      obtain ⟨w, hw, rfl⟩ := List.mem_map.mp hp
      exact h w hw)
    have hfst : ((v :: items).map (fun w => (dumps w, w))).map Prod.fst = (v :: items).map dumps := by
      rw [List.map_map]
      rfl
    have hsnd : ((v :: items).map (fun w => (dumps w, w))).map Prod.snd = v :: items := by
      rw [List.map_map]
      exact List.map_id _
    rwa [hfst, hsnd] at hread

lemma reads_dumpsObj {depth : ℕ} {fields : List (Str × Json)} (hnodup : (fields.map Prod.fst).Nodup)
    (h : ∀ f ∈ fields, NoPairs f.1 ∧ Reads depth (dumps f.2) f.2) :
    Reads (depth + 1) (dumps (.obj fields)) (.obj fields) := by
  rw [dumps, dumpsFields_eq]
  cases fields with
  | nil => exact Reads.objNil
  | cons f fields =>
    have hmem : ∀ g ∈ (f :: fields).map (fun g => (g.1, dumps g.2, g.2)),
        NoPairs g.1 ∧ Reads depth g.2.1 g.2.2 := by
      intro g hg
      obtain ⟨g', hg', rfl⟩ := List.mem_map.mp hg
      exact h g' hg'
    have hread := @Reads.obj depth ((f :: fields).map (fun g => (g.1, dumps g.2, g.2))) _ dumpsStr
      blank_isSpace (by simp) (fun g hg => readsString_dumps (hmem g hg).1)
      (fun g hg => (hmem g hg).2) (by
        rw [List.map_map]
        exact hnodup)
    have htexts : ((f :: fields).map (fun g => (g.1, dumps g.2, g.2))).map
        (fieldWith [ofChar ' '] dumpsStr) =
        (f :: fields).map (fun g => fieldWith [ofChar ' '] dumpsStr (g.1, dumps g.2, g.2)) := by
      rw [List.map_map]
      rfl
    have hvalues : ((f :: fields).map (fun g => (g.1, dumps g.2, g.2))).map fieldValue = f :: fields := by
      rw [List.map_map]
      exact List.map_id _
    rwa [htexts, hvalues] at hread

mutual

theorem reads_dumps : ∀ (v : Json) (depth : ℕ), v.WellFormed → v.depth ≤ depth → Reads depth (dumps v) v
  | .null, _, _, _ => Reads.null
  | .bool b, _, _, _ => Reads.bool b
  | .int n, _, _, _ => Reads.int n
  | .float x, _, _, _ => Reads.dumpsFloat x
  | .str _, _, hv, _ => (readsString_dumps hv).reads
  | .arr _, 0, _, hdepth => absurd hdepth (Nat.not_succ_le_zero _)
  | .arr items, depth + 1, hv, hdepth =>
    reads_dumpsArr (reads_dumpsItems items depth hv (Nat.le_of_succ_le_succ hdepth))
  | .obj _, 0, _, hdepth => absurd hdepth (Nat.not_succ_le_zero _)
  | .obj fields, depth + 1, hv, hdepth =>
    reads_dumpsObj hv.1 (reads_dumpsFields fields depth hv.2 (Nat.le_of_succ_le_succ hdepth))

theorem reads_dumpsItems : ∀ (items : List Json) (depth : ℕ), itemsWellFormed items →
    depthItems items ≤ depth → ∀ v ∈ items, Reads depth (dumps v) v
  | [], _, _, _ => fun _ hv => absurd hv List.not_mem_nil
  | w :: items, depth, hitems, hdepth => by
    intro v hv
    rcases List.mem_cons.mp hv with heq | hv
    · rw [heq]
      exact reads_dumps w depth hitems.1 ((le_max_left _ _).trans hdepth)
    · exact reads_dumpsItems items depth hitems.2 ((le_max_right _ _).trans hdepth) v hv

theorem reads_dumpsFields : ∀ (fields : List (Str × Json)) (depth : ℕ), fieldsWellFormed fields →
    depthFields fields ≤ depth → ∀ f ∈ fields, NoPairs f.1 ∧ Reads depth (dumps f.2) f.2
  | [], _, _, _ => fun _ hf => absurd hf List.not_mem_nil
  | (k, w) :: fields, depth, hfields, hdepth => by
    intro f hf
    rcases List.mem_cons.mp hf with heq | hf
    · rw [heq]
      exact ⟨hfields.1, reads_dumps w depth hfields.2.1 ((le_max_left _ _).trans hdepth)⟩
    · exact reads_dumpsFields fields depth hfields.2.2 ((le_max_right _ _).trans hdepth) f hf

end

/-- `json.loads(json.dumps(v)) == v`, with equal types. -/
theorem loads_dumps {limit : ℕ} {v : Json} (hv : v.WellFormed) (hdepth : v.depth ≤ limit) :
    loads limit (dumps v) = .ok v :=
  loads_reads (reads_dumps v limit hv hdepth)

/-! ### ASCII -/

/-- A text that every encoding takes. -/
def AsciiText (s : Str) : Prop := ∀ c ∈ s, c.val < 128

lemma AsciiText.append {s t : Str} (hs : AsciiText s) (ht : AsciiText t) : AsciiText (s ++ t) := by
  intro c hc
  rcases List.mem_append.mp hc with hc | hc
  · exact hs c hc
  · exact ht c hc

lemma AsciiText.cons {c : CodePoint} {s : Str} (hc : c.val < 128) (hs : AsciiText s) :
    AsciiText (c :: s) := by
  intro d hd
  rcases List.mem_cons.mp hd with rfl | hd
  · exact hc
  · exact hs d hd

lemma asciiText_of_isAscii {s : Str} (h : isAscii s = true) : AsciiText s := by
  intro c hc
  exact of_decide_eq_true (List.all_eq_true.mp h c hc)

lemma asciiText_hexDigits (count n : ℕ) : AsciiText (hexDigits count n) := by
  induction count generalizing n with
  | zero => exact fun c hc => absurd hc List.not_mem_nil
  | succ count ih =>
    refine (ih (n / 16)).append ?_
    intro c hc
    rw [List.mem_singleton.mp hc, hexDigit_val (Nat.mod_lt n (by norm_num))]
    split_ifs <;> omega

lemma asciiText_dumpsChar (c : CodePoint) : AsciiText (dumpsChar c) := by
  have hescape : ∀ n, AsciiText (lit "\\u" ++ hexDigits 4 n) := fun n =>
    (asciiText_of_isAscii (by decide)).append (asciiText_hexDigits 4 n)
  unfold dumpsChar
  dsimp only
  split_ifs with h1 h2
  · refine (AsciiText.cons (by decide)) ?_
    intro d hd
    rw [List.mem_singleton.mp hd]
    rcases h1 with rfl | rfl
    · decide
    · decide
  · intro d hd
    rw [List.mem_singleton.mp hd]
    omega
  · exact asciiText_of_isAscii (by decide)
  · exact asciiText_of_isAscii (by decide)
  · exact asciiText_of_isAscii (by decide)
  · exact asciiText_of_isAscii (by decide)
  · exact asciiText_of_isAscii (by decide)
  · exact hescape _
  · have hboth := (hescape (0xD800 + (c.val - 0x10000) / 0x400)).append
      (hescape (0xDC00 + (c.val - 0x10000) % 0x400))
    rw [← List.append_assoc] at hboth
    exact hboth

lemma asciiText_dumpsStr (s : Str) : AsciiText (dumpsStr s) := by
  have hchars : AsciiText (s.flatMap dumpsChar) := by
    intro c hc
    obtain ⟨d, -, hd⟩ := List.mem_flatMap.mp hc
    exact asciiText_dumpsChar d c hd
  exact AsciiText.cons (by decide) (hchars.append (asciiText_of_isAscii (by decide)))

lemma asciiText_decimal (n : ℤ) : AsciiText (decimal n) := by
  intro c hc
  have hval := mem_decimal hc
  omega

lemma asciiText_dumpsFloat (x : Binary64) : AsciiText (dumpsFloat x) := by
  cases x with
  | nan => exact asciiText_of_isAscii (by decide)
  | inf neg =>
    cases neg with
    | true => exact asciiText_of_isAscii (by decide)
    | false => exact asciiText_of_isAscii (by decide)
  | finite neg a =>
    obtain ⟨ip, fp, e, hnumeral, htext, -⟩ := floatRepr_numeral neg a
    rw [show dumpsFloat (.finite neg a) = _ from htext]
    refine AsciiText.append ?_ ?_
    · cases neg with
      | true => exact asciiText_of_isAscii (by decide)
      | false => exact asciiText_of_isAscii (by decide)
    · intro c hc
      have hval := numeralText_mem hnumeral hc
      omega

lemma AsciiText.intercalate {sep : Str} {parts : List Str} (hsep : AsciiText sep)
    (h : ∀ s ∈ parts, AsciiText s) : AsciiText (sep.intercalate parts) := by
  induction parts with
  | nil => exact fun c hc => absurd hc List.not_mem_nil
  | cons s parts ih =>
    have hs := h s List.mem_cons_self
    have hrest := ih (fun t ht => h t (List.mem_cons_of_mem _ ht))
    cases parts with
    | nil =>
      rw [List.intercalate_singleton]
      exact hs
    | cons t parts =>
      rw [List.intercalate_cons_cons]
      exact (hs.append hsep).append hrest

/-- An array or an object, as its joined parts in brackets. -/
lemma AsciiText.bracketed {left right : CodePoint} {sep : Str} {parts : List Str}
    (hleft : left.val < 128) (hright : right.val < 128) (hsep : AsciiText sep)
    (h : ∀ s ∈ parts, AsciiText s) : AsciiText (left :: sep.intercalate parts ++ [right]) := by
  have hlast : AsciiText [right] := fun c hc => by rwa [List.mem_singleton.mp hc]
  exact ((AsciiText.intercalate hsep h).cons hleft).append hlast

lemma asciiText_commaBlank : AsciiText (lit ", ") := asciiText_of_isAscii (by decide)

mutual

theorem asciiText_dumps : ∀ v : Json, AsciiText (dumps v)
  | .null => asciiText_of_isAscii (by decide)
  | .bool true => asciiText_of_isAscii (by decide)
  | .bool false => asciiText_of_isAscii (by decide)
  | .int n => asciiText_decimal n.val
  | .float x => asciiText_dumpsFloat x
  | .str s => asciiText_dumpsStr s
  | .arr items => .bracketed (by decide) (by decide) asciiText_commaBlank (asciiText_dumpsItems items)
  | .obj fields => .bracketed (by decide) (by decide) asciiText_commaBlank (asciiText_dumpsFields fields)

theorem asciiText_dumpsItems : ∀ items : List Json, ∀ s ∈ dumpsItems items, AsciiText s
  | [] => fun _ hs => absurd hs List.not_mem_nil
  | v :: items => by
    intro s hs
    rcases List.mem_cons.mp hs with rfl | hs
    · exact asciiText_dumps v
    · exact asciiText_dumpsItems items s hs

theorem asciiText_dumpsFields : ∀ fields : List (Str × Json), ∀ s ∈ dumpsFields fields, AsciiText s
  | [] => fun _ hs => absurd hs List.not_mem_nil
  | (k, v) :: fields => by
    intro s hs
    rcases List.mem_cons.mp hs with rfl | hs
    · exact ((asciiText_dumpsStr k).append (asciiText_of_isAscii (by decide))).append (asciiText_dumps v)
    · exact asciiText_dumpsFields fields s hs

end

/-- What is dumped can be sent as bytes. -/
lemma encode_dumps (v : Json) : ∃ body, encode (dumps v) = .ok body :=
  encode_isOk (fun c hc => isSurrogate_of_ascii (asciiText_dumps v c hc))

/-- The bytes of a dumped value are loaded again. -/
theorem loads_decode_dumps {limit : ℕ} {v : Json} {body : List UInt8} (hv : v.WellFormed)
    (hdepth : v.depth ≤ limit) (hbody : encode (dumps v) = .ok body) :
    (decode body >>= loads limit) = .ok v := by
  rw [decode_encode hbody]
  exact loads_dumps hv hdepth

/-- Text in ASCII has no surrogates. -/
lemma AsciiText.noPairs {s : Str} (h : AsciiText s) : NoPairs s := by
  unfold NoPairs
  rw [List.isChain_iff_getElem]
  rintro i hi ⟨hhigh, -⟩
  have hval := h s[i] (List.getElem_mem _)
  simp only [isHighSurrogate, Bool.and_eq_true, decide_eq_true_eq] at hhigh
  omega

end Py
