import IntruderWatch.Library.PyJson

/-!
# JSON text

Texts that the scanner of `json.loads` reads back, put together as a writer puts them together:
strings without escapes, integers, `true`, arrays and objects. `Reads depth t v` says that `t`
is read as `v` in front of any delimiter, with room for `depth` nested containers.
-/

namespace Py

/-- A character that a JSON string holds as it is. -/
def IsPlain (c : CodePoint) : Prop := c ≠ quote ∧ c ≠ backslash ∧ 32 ≤ c.val

def comma : CodePoint := ofChar ','

def closeBracket : CodePoint := ofChar ']'

def closeBrace : CodePoint := ofChar '\x7d'

/-- What may follow a value. -/
def EndsValue (tail : Str) : Prop :=
  ∀ c ∈ tail.head?, c = comma ∨ c = closeBracket ∨ c = closeBrace

lemma endsValue_nil : EndsValue [] := by
  simp [EndsValue]

lemma endsValue_cons {c : CodePoint} (h : c = comma ∨ c = closeBracket ∨ c = closeBrace)
    (tail : Str) : EndsValue (c :: tail) := by
  simpa [EndsValue] using h

structure Reads (depth : ℕ) (t : Str) (v : Json) : Prop where
  starts : ∃ c s, t = c :: s ∧ c.val < 128 ∧ isJsonSpace c = false ∧ c ≠ closeBracket
  scan : ∀ fuel tail, t.length ≤ fuel → EndsValue tail →
    scanOnce (fuel + 1) depth (t ++ tail) = .ok (v, tail)

variable {depth : ℕ} {t : Str} {v : Json}

lemma skipSpace_cons {c : CodePoint} (h : isJsonSpace c = false) (s : Str) :
    skipSpace (c :: s) = c :: s := by
  rw [skipSpace, List.dropWhile_cons, h]
  rfl

lemma Reads.skipSpace_append (h : Reads depth t v) (tail : Str) :
    skipSpace (t ++ tail) = t ++ tail := by
  obtain ⟨c, s, rfl, -, hspace, -⟩ := h.starts
  exact skipSpace_cons hspace (s ++ tail)

/-! ### Strings -/

lemma scanString_plain {s : Str} (hs : ∀ c ∈ s, IsPlain c) (tail : Str) :
    scanString (s ++ quote :: tail) (.plain none) = some (s, tail) := by
  induction s with
  | nil => rw [List.nil_append, scanString, if_pos rfl]; rfl
  | cons c s ih =>
    obtain ⟨hquote, hbackslash, hcontrol⟩ := hs c List.mem_cons_self
    rw [List.cons_append, scanString, if_neg hquote, if_neg hbackslash, if_neg (by omega),
      ih (fun d hd => hs d (List.mem_cons_of_mem c hd))]
    rfl

lemma expectString_plain {s : Str} (hs : ∀ c ∈ s, IsPlain c) (tail : Str) :
    expectString (s ++ quote :: tail) = .ok (s, tail) := by
  rw [expectString, scanString_plain hs]
  rfl

def stringText (s : Str) : Str := quote :: s ++ [quote]

/-- A string literal that is read as `s`. -/
def ReadsString (t s : Str) : Prop :=
  ∃ rest, t = quote :: rest ∧ ∀ tail, expectString (rest ++ tail) = .ok (s, tail)

theorem ReadsString.reads {s : Str} (h : ReadsString t s) : Reads depth t (.str s) := by
  obtain ⟨rest, rfl, hstring⟩ := h
  refine ⟨⟨quote, rest, rfl, by decide, by decide, by decide⟩, ?_⟩
  intro fuel tail _ _
  rw [List.cons_append, scanOnce.eq_def]
  dsimp only
  rw [if_pos rfl, hstring]
  rfl

lemma readsString_plain {s : Str} (hs : ∀ c ∈ s, IsPlain c) : ReadsString (stringText s) s := by
  refine ⟨s ++ [quote], rfl, ?_⟩
  intro tail
  rw [List.append_assoc]
  exact expectString_plain hs tail

/-! ### Numbers -/

lemma decimalDigits_zero_head {n d : ℕ} {ds : List ℕ} (h : decimalDigits n = d :: ds)
    (hd : d = 0) : ds = [] := by
  unfold decimalDigits at h
  split at h
  · exact (List.cons.inj h).2.symm
  · next hn =>
    have hlast := Nat.getLast_digit_ne_zero 10 hn
    rw [← List.head_reverse (by simpa [Nat.digits_ne_nil_iff_ne_zero] using hn)] at hlast
    simp only [h, List.head_cons] at hlast
    exact absurd hd hlast

lemma isDigitChar_digitChar {d : ℕ} (hd : d < 10) : isDigitChar (digitChar d) = true := by
  rw [isDigitChar, digitChar_val hd, isDigit, Bool.and_eq_true, decide_eq_true_eq,
    decide_eq_true_eq]
  omega

lemma EndsValue.not_digit {tail : Str} (h : EndsValue tail) : ∀ c ∈ tail.head?, isDigitChar c = false := by
  intro c hc
  rcases h c hc with rfl | rfl | rfl
  · decide
  · decide
  · decide

lemma span_digits {ds : Str} (hds : ∀ c ∈ ds, isDigitChar c = true) {tail : Str}
    (h : EndsValue tail) : (ds ++ tail).span isDigitChar = (ds, tail) := by
  have htail : tail.takeWhile isDigitChar = [] ∧ tail.dropWhile isDigitChar = tail := by
    cases tail with
    | nil => exact ⟨rfl, rfl⟩
    | cons c tail => simp [h.not_digit c rfl]
  rw [List.span_eq_takeWhile_dropWhile, List.takeWhile_append_of_pos hds,
    List.dropWhile_append_of_pos hds, htail.1, htail.2, List.append_nil]

lemma matchDigits_decimal (n : ℕ) {tail : Str} (h : EndsValue tail) :
    matchDigits ((decimalDigits n).map digitChar ++ tail) =
      some ((decimalDigits n).map digitChar, tail) := by
  have hdigits : ∀ c ∈ (decimalDigits n).map digitChar, isDigitChar c = true := by
    intro c hc
    obtain ⟨d, hd, rfl⟩ := List.mem_map.mp hc
    exact isDigitChar_digitChar (decimalDigits_lt hd)
  cases hds : decimalDigits n with
  | nil => exact absurd hds (decimalDigits_ne_nil n)
  | cons d ds =>
    rw [hds] at hdigits
    have hd : d < 10 := decimalDigits_lt (by rw [hds]; exact List.mem_cons_self)
    rw [List.map_cons, List.cons_append, matchDigits]
    by_cases hzero : digitChar d = ofChar '0'
    · have hd0 : d = 0 := by
        have hval := congrArg Fin.val hzero
        rw [digitChar_val hd] at hval
        have h48 : (ofChar '0').val = 48 := rfl
        omega
      rw [if_pos hzero, decimalDigits_zero_head hds hd0]
      rfl
    · rw [if_neg hzero, if_pos (hdigits _ List.mem_cons_self)]
      exact congrArg some (span_digits hdigits h)

lemma matchFraction_ends {tail : Str} (h : EndsValue tail) : matchFraction tail = ([], tail) := by
  match tail with
  | [] => rfl
  | [c] => rfl
  | c :: d :: s =>
    have hc : c ≠ ofChar '.' := by
      rcases h c rfl with rfl | rfl | rfl
      · decide
      · decide
      · decide
    rw [matchFraction, if_neg (fun hand => hc hand.1)]

lemma matchExponent_ends {tail : Str} (h : EndsValue tail) : matchExponent tail = ([], tail) := by
  cases tail with
  | nil => rfl
  | cons c s =>
    have hc : ¬ (c = ofChar 'e' ∨ c = ofChar 'E') := by
      rcases h c rfl with rfl | rfl | rfl
      · decide
      · decide
      · decide
    rw [matchExponent]
    dsimp only
    rw [if_neg (fun hand => hc hand.1)]

lemma matchNumber_decimal (n : Integer) {tail : Str} (h : EndsValue tail) :
    matchNumber (decimal n.val ++ tail) = .ok (.int n, tail) := by
  have hparse := parseInt_decimal n
  have hhead : (decimalDigits n.val.natAbs).map digitChar ++ tail ≠ [] ∧
      ((decimalDigits n.val.natAbs).map digitChar ++ tail).head? ≠ some minus := by
    cases hds : decimalDigits n.val.natAbs with
    | nil => exact absurd hds (decimalDigits_ne_nil _)
    | cons d ds =>
      refine ⟨by simp, ?_⟩
      have hd : d < 10 := decimalDigits_lt (by rw [hds]; exact List.mem_cons_self)
      intro hminus
      have hval := congrArg Fin.val (Option.some.inj hminus)
      rw [digitChar_val hd] at hval
      have h45 : minus.val = 45 := rfl
      omega
  by_cases hneg : n.val < 0
  · have htext : decimal n.val = minus :: (decimalDigits n.val.natAbs).map digitChar := by
      rw [decimal, if_pos hneg]
    rw [htext] at hparse ⊢
    rw [List.cons_append, matchNumber]
    simp only [List.head?_cons, if_true, List.drop_one, List.tail_cons, matchDigits_decimal _ h,
      matchFraction_ends h, matchExponent_ends h, and_self, List.singleton_append, hparse]
    rfl
  · have htext : decimal n.val = (decimalDigits n.val.natAbs).map digitChar := by
      rw [decimal, if_neg hneg]
    rw [htext] at hparse ⊢
    rw [matchNumber]
    simp only [hhead.2, if_false, matchDigits_decimal _ h, matchFraction_ends h,
      matchExponent_ends h, and_self, if_true, List.nil_append, hparse]
    rfl

/-- No constant starts with a digit, and only one with a minus sign. -/
lemma scanConstant_eq_none {c : CodePoint} (hc : c.val = 45 ∨ (48 ≤ c.val ∧ c.val ≤ 57)) {s : Str}
    (hs : s.head? ≠ some (ofChar 'I')) : scanConstant (c :: s) = none := by
  rw [scanConstant, Option.map_eq_none_iff, List.find?_eq_none]
  intro word hword hstarts
  have hfirst : ∀ d w, word.1 = d :: w → d.val = 45 ∧ w.isPrefixOf s = true ∨
      (48 ≤ d.val ∧ d.val ≤ 57) := by
    intro d w heq
    rw [heq, List.isPrefixOf, Bool.and_eq_true, beq_iff_eq] at hstarts
    obtain ⟨rfl, hrest⟩ := hstarts
    exact hc.imp_left (fun h => ⟨h, hrest⟩)
  have hletter : ∀ d w, word.1 = d :: w → 65 ≤ d.val → False := by
    intro d w heq hd
    rcases hfirst d w heq with h | h
    · omega
    · omega
  simp only [constants, List.mem_cons, List.not_mem_nil, or_false] at hword
  rcases hword with rfl | rfl | rfl | rfl | rfl | rfl
  · exact hletter (ofChar 'n') (lit "ull") rfl (by decide)
  · exact hletter (ofChar 't') (lit "rue") rfl (by decide)
  · exact hletter (ofChar 'f') (lit "alse") rfl (by decide)
  · exact hletter (ofChar 'N') (lit "aN") rfl (by decide)
  · exact hletter (ofChar 'I') (lit "nfinity") rfl (by decide)
  · rcases hfirst minus (lit "Infinity") rfl with ⟨-, hrest⟩ | h
    · cases s with
      | nil => cases hrest
      | cons d s =>
        have hd : ofChar 'I' = d := by
          have hand : (ofChar 'I' == d && (lit "nfinity").isPrefixOf s) = true := hrest
          rw [Bool.and_eq_true, beq_iff_eq] at hand
          exact hand.1
        exact hs (by rw [List.head?_cons, hd])
    · exact absurd h.1 (by decide)

theorem Reads.int (n : Integer) : Reads depth (decimal n.val) (.int n) := by
  have hne : decimal n.val ≠ [] := by
    intro hnil
    have hparse := parseInt_decimal n
    rw [hnil] at hparse
    cases hparse
  cases htext : decimal n.val with
  | nil => exact absurd htext hne
  | cons c s =>
    have hmem : ∀ d ∈ c :: s, d.val = 45 ∨ (48 ≤ d.val ∧ d.val ≤ 57) := by
      intro d hd
      rw [← htext] at hd
      exact mem_decimal hd
    have hc := hmem c List.mem_cons_self
    have hother : ∀ d : CodePoint, (d.val < 45 ∨ 57 < d.val) → c ≠ d := by
      rintro d hd rfl
      omega
    have hspace : isJsonSpace c = false := by
      simp only [isJsonSpace, Bool.or_eq_false_iff, decide_eq_false_iff_not]
      omega
    refine ⟨⟨c, s, rfl, by omega, hspace, hother _ (by decide)⟩, ?_⟩
    intro fuel tail _ htail
    have hI : (s ++ tail).head? ≠ some (ofChar 'I') := by
      intro hhead
      have hval : (ofChar 'I').val = 73 := rfl
      cases s with
      | nil =>
        rcases htail _ hhead with h | h | h
        · exact absurd h (by decide)
        · exact absurd h (by decide)
        · exact absurd h (by decide)
      | cons d s =>
        have hd := hmem d (by simp)
        obtain rfl := Option.some.inj hhead
        omega
    have hnumber := matchNumber_decimal n htail
    rw [htext, List.cons_append] at hnumber
    rw [List.cons_append, scanOnce.eq_def]
    simp only [hother quote (by decide), hother (ofChar '\x7b') (by decide),
      hother (ofChar '[') (by decide), if_false, scanConstant_eq_none hc hI, hnumber]

theorem Reads.true : Reads depth (lit "true") (.bool true) where
  starts := ⟨ofChar 't', lit "rue", rfl, by decide, by decide, by decide⟩
  scan := by
    intro fuel tail _ _
    rw [scanOnce.eq_def]
    rfl

/-! ### Arrays and objects

A writer may put white space behind each comma and colon; `blank` is what it puts there. -/

lemma skipSpace_blank {blank : Str} (hblank : ∀ c ∈ blank, isJsonSpace c) (s : Str) :
    skipSpace (blank ++ s) = skipSpace s :=
  List.dropWhile_append_of_pos hblank

/-- A joined text starts like its first part. -/
lemma skipSpace_intercalate {c : CodePoint} (sep s : Str) (ts : List Str)
    (hspace : isJsonSpace c = false) (tail : Str) :
    skipSpace (sep.intercalate ((c :: s) :: ts) ++ tail) =
      sep.intercalate ((c :: s) :: ts) ++ tail := by
  rw [List.intercalate_cons_cons_left, List.cons_append]
  exact skipSpace_cons hspace _

section Elements

variable {items : List (Str × Json)}

/-- One element of an array, up to the delimiter behind it. -/
lemma parseArray_item (hvalue : Reads depth t v) (fuel : ℕ) (before : List Json) {d : CodePoint}
    (hd : d = comma ∨ d = closeBracket) (tail : Str) (hfuel : t.length ≤ fuel) :
    parseArray (fuel + 2) depth before (t ++ d :: tail) =
      if d = closeBracket then .ok (.arr (before ++ [v]), tail)
      else parseArray (fuel + 1) depth (before ++ [v]) (skipSpace tail) := by
  have hends : EndsValue (d :: tail) := endsValue_cons (hd.imp_right Or.inl) tail
  have hscan := hvalue.scan fuel (d :: tail) hfuel hends
  have hspace : isJsonSpace d = false := by
    rcases hd with rfl | rfl
    · decide
    · decide
  rw [parseArray]
  simp only [hscan, bind, Except.bind]
  rw [skipSpace_cons hspace]
  dsimp only
  rcases hd with rfl | rfl
  · rw [if_neg (by decide), if_pos (show comma = ofChar ',' from rfl), if_neg (by decide)]
  · rw [if_pos (show closeBracket = ofChar ']' from rfl), if_pos rfl]

variable {blank : Str} (hblank : ∀ c ∈ blank, isJsonSpace c)

include hblank

lemma parseArray_reads (hne : items ≠ []) (hitems : ∀ p ∈ items, Reads depth p.1 p.2) (fuel : ℕ)
    (before : List Json) (tail : Str)
    (hfuel : ((comma :: blank).intercalate (items.map Prod.fst)).length + 2 ≤ fuel) :
    parseArray fuel depth before
        ((comma :: blank).intercalate (items.map Prod.fst) ++ closeBracket :: tail) =
      .ok (.arr (before ++ items.map Prod.snd), tail) := by
  induction items generalizing fuel before with
  | nil => exact absurd rfl hne
  | cons p rest ih =>
    obtain ⟨n, rfl⟩ : ∃ n, fuel = n + 2 := ⟨fuel - 2, by omega⟩
    have hvalue := hitems p List.mem_cons_self
    cases rest with
    | nil =>
      rw [List.map_cons, List.map_nil, List.intercalate_singleton] at hfuel ⊢
      rw [parseArray_item hvalue n before (Or.inr rfl) tail (by omega), if_pos rfl]
      rfl
    | cons q rest =>
      have hmap : (q :: rest).map Prod.fst ≠ [] := by simp
      rw [List.map_cons, List.intercalate_cons_of_ne_nil hmap, List.length_append,
        List.length_append, List.length_cons] at hfuel
      have hrest := ih (by simp) (fun p hmem => hitems p (List.mem_cons_of_mem _ hmem)) (n + 1)
        (before ++ [p.2]) (by omega)
      obtain ⟨c, s, hq, -, hspace, -⟩ := (hitems q (by simp)).starts
      have hskip := skipSpace_intercalate (comma :: blank) s (rest.map Prod.fst) hspace
        (closeBracket :: tail)
      rw [← hq, ← List.map_cons] at hskip
      rw [List.map_cons, List.intercalate_cons_of_ne_nil hmap, List.append_assoc, List.append_assoc,
        List.cons_append, parseArray_item hvalue n before (Or.inl rfl) _ (by omega),
        if_neg (by decide), skipSpace_blank hblank, hskip, hrest, List.append_assoc]
      rfl

theorem Reads.arr (hne : items ≠ []) (hitems : ∀ p ∈ items, Reads depth p.1 p.2) :
    Reads (depth + 1)
      (ofChar '[' :: (comma :: blank).intercalate (items.map Prod.fst) ++ [closeBracket])
      (.arr (items.map Prod.snd)) where
  starts := ⟨ofChar '[', _, rfl, by decide, by decide, by decide⟩
  scan := by
    intro fuel tail hfuel _
    rw [List.length_append, List.length_cons, List.length_singleton] at hfuel
    have hparse := parseArray_reads hblank hne hitems fuel [] tail (by omega)
    cases items with
    | nil => exact absurd rfl hne
    | cons p rest =>
      obtain ⟨c, s, hp, -, hspace, hbracket⟩ := (hitems p List.mem_cons_self).starts
      have hskip := skipSpace_intercalate (comma :: blank) s (rest.map Prod.fst) hspace
        (closeBracket :: tail)
      have hopen : ((comma :: blank).intercalate ((p :: rest).map Prod.fst) ++
          closeBracket :: tail).head? ≠ some (ofChar ']') := by
        rw [List.map_cons, hp, List.intercalate_cons_cons_left]
        exact fun h => hbracket (Option.some.inj h)
      rw [← hp, ← List.map_cons] at hskip
      rw [List.append_assoc, List.cons_append, List.singleton_append, scanOnce.eq_def]
      dsimp only
      rw [if_neg (by decide), if_neg (by decide), if_pos rfl, hskip, if_neg hopen, hparse,
        List.nil_append]

end Elements

/-! Fields are given by key, text and value. -/

section Fields

variable {fields : List (Str × Str × Json)} {blank : Str} {keyText : Str → Str}

/-- The field as a writer with `blank` and `keyText` puts it together. -/
def fieldWith (blank : Str) (keyText : Str → Str) (f : Str × Str × Json) : Str :=
  keyText f.1 ++ ofChar ':' :: blank ++ f.2.1

def fieldValue (f : Str × Str × Json) : Str × Json := (f.1, f.2.2)

lemma setField_new {key : Str} {v : Json} {before : List (Str × Json)}
    (h : key ∉ before.map Prod.fst) : setField key v before = before ++ [(key, v)] := by
  induction before with
  | nil => rfl
  | cons f before ih =>
    obtain ⟨k, w⟩ := f
    rw [List.map_cons, List.mem_cons, not_or] at h
    rw [setField, if_neg (Ne.symm h.1), ih h.2, List.cons_append]

lemma length_fieldWith (f : Str × Str × Json) : f.2.1.length ≤ (fieldWith blank keyText f).length := by
  rw [fieldWith, List.length_append]
  omega

/-- A field starts with the quote of its key. -/
lemma fieldWith_cons {f : Str × Str × Json} (hkey : ReadsString (keyText f.1) f.1) :
    ∃ s, fieldWith blank keyText f = quote :: s := by
  obtain ⟨s, hs, -⟩ := hkey
  exact ⟨_, by rw [fieldWith, hs, List.cons_append, List.cons_append]⟩

lemma skipSpace_fields {f : Str × Str × Json} (hkey : ReadsString (keyText f.1) f.1)
    (ts : List Str) (tail : Str) :
    skipSpace ((comma :: blank).intercalate (fieldWith blank keyText f :: ts) ++ tail) =
      (comma :: blank).intercalate (fieldWith blank keyText f :: ts) ++ tail := by
  obtain ⟨s, hs⟩ := @fieldWith_cons blank keyText f hkey
  rw [hs]
  exact skipSpace_intercalate _ s ts (by decide) tail

variable (hblank : ∀ c ∈ blank, isJsonSpace c)

include hblank

/-- One field of an object, up to the delimiter behind its value. -/
lemma parseObject_field {f : Str × Str × Json} (hkey : ReadsString (keyText f.1) f.1)
    (hvalue : Reads depth f.2.1 f.2.2) (fuel : ℕ) (before : List (Str × Json)) {d : CodePoint}
    (hd : d = comma ∨ d = closeBrace) (tail : Str) (hfuel : f.2.1.length ≤ fuel) :
    parseObject (fuel + 2) depth before (fieldWith blank keyText f ++ d :: tail) =
      if d = closeBrace then .ok (.obj (setField f.1 f.2.2 before), tail)
      else parseObject (fuel + 1) depth (setField f.1 f.2.2 before) (skipSpace tail) := by
  have hends : EndsValue (d :: tail) := endsValue_cons (hd.imp_right Or.inr) tail
  have hscan := hvalue.scan fuel (d :: tail) hfuel hends
  obtain ⟨s, hs, hstring⟩ := hkey
  have htext : fieldWith blank keyText f ++ d :: tail =
      quote :: (s ++ ofChar ':' :: (blank ++ (f.2.1 ++ d :: tail))) := by
    simp [fieldWith, hs]
  have hspace : isJsonSpace d = false := by
    rcases hd with rfl | rfl
    · decide
    · decide
  rw [htext, parseObject, expectChar, if_pos rfl]
  simp only [bind, Except.bind, hstring]
  rw [skipSpace_cons (by decide), expectChar, if_pos rfl]
  simp only [skipSpace_blank hblank, hvalue.skipSpace_append, hscan]
  rw [skipSpace_cons hspace]
  dsimp only
  rcases hd with rfl | rfl
  · rw [if_neg (by decide), if_pos (show comma = ofChar ',' from rfl), if_neg (by decide)]
  · rw [if_pos (show closeBrace = ofChar '\x7d' from rfl), if_pos rfl]

lemma parseObject_reads (hne : fields ≠ []) (hkeys : ∀ f ∈ fields, ReadsString (keyText f.1) f.1)
    (hvalues : ∀ f ∈ fields, Reads depth f.2.1 f.2.2) (fuel : ℕ) (before : List (Str × Json))
    (hnodup : (before.map Prod.fst ++ fields.map Prod.fst).Nodup) (tail : Str)
    (hfuel : ((comma :: blank).intercalate (fields.map (fieldWith blank keyText))).length + 2 ≤
      fuel) :
    parseObject fuel depth before
        ((comma :: blank).intercalate (fields.map (fieldWith blank keyText)) ++ closeBrace :: tail) =
      .ok (.obj (before ++ fields.map fieldValue), tail) := by
  induction fields generalizing fuel before with
  | nil => exact absurd rfl hne
  | cons f rest ih =>
    obtain ⟨n, rfl⟩ : ∃ n, fuel = n + 2 := ⟨fuel - 2, by omega⟩
    have hkey := hkeys f List.mem_cons_self
    have hvalue := hvalues f List.mem_cons_self
    have hlen := @length_fieldWith blank keyText f
    have hnew : f.1 ∉ before.map Prod.fst := by
      intro hmem
      exact (List.nodup_append.mp hnodup).2.2 f.1 hmem f.1 (by simp) rfl
    cases rest with
    | nil =>
      rw [List.map_cons, List.map_nil, List.intercalate_singleton] at hfuel ⊢
      rw [parseObject_field hblank hkey hvalue n before (Or.inr rfl) tail (by omega), if_pos rfl,
        setField_new hnew]
      rfl
    | cons g rest =>
      have hmap : (g :: rest).map (fieldWith blank keyText) ≠ [] := by simp
      rw [List.map_cons, List.intercalate_cons_of_ne_nil hmap, List.length_append,
        List.length_append, List.length_cons] at hfuel
      have hrest := ih (by simp) (fun f hmem => hkeys f (List.mem_cons_of_mem _ hmem))
        (fun f hmem => hvalues f (List.mem_cons_of_mem _ hmem)) (n + 1) (before ++ [fieldValue f])
        (by simpa [fieldValue] using hnodup) (by omega)
      rw [List.map_cons, List.intercalate_cons_of_ne_nil hmap, List.append_assoc, List.append_assoc,
        List.cons_append, parseObject_field hblank hkey hvalue n before (Or.inl rfl) _ (by omega),
        if_neg (by decide), setField_new hnew, skipSpace_blank hblank, List.map_cons,
        skipSpace_fields (hkeys g (by simp)), ← List.map_cons]
      refine hrest.trans ?_
      rw [List.append_assoc]
      rfl

theorem Reads.obj (hne : fields ≠ []) (hkeys : ∀ f ∈ fields, ReadsString (keyText f.1) f.1)
    (hvalues : ∀ f ∈ fields, Reads depth f.2.1 f.2.2) (hnodup : (fields.map Prod.fst).Nodup) :
    Reads (depth + 1) (ofChar '\x7b' ::
        (comma :: blank).intercalate (fields.map (fieldWith blank keyText)) ++ [closeBrace])
      (.obj (fields.map fieldValue)) where
  starts := ⟨ofChar '\x7b', _, rfl, by decide, by decide, by decide⟩
  scan := by
    intro fuel tail hfuel _
    rw [List.length_append, List.length_cons, List.length_singleton] at hfuel
    have hparse := parseObject_reads hblank hne hkeys hvalues fuel [] hnodup tail (by omega)
    cases fields with
    | nil => exact absurd rfl hne
    | cons f rest =>
      have hkey := hkeys f List.mem_cons_self
      have hskip := @skipSpace_fields blank keyText f hkey
        (rest.map (fieldWith blank keyText)) (closeBrace :: tail)
      obtain ⟨s, hs⟩ := @fieldWith_cons blank keyText f hkey
      have hhead : ((comma :: blank).intercalate ((f :: rest).map (fieldWith blank keyText)) ++
          closeBrace :: tail).head? = some quote := by
        rw [List.map_cons, hs, List.intercalate_cons_cons_left]
        rfl
      rw [← List.map_cons] at hskip
      rw [List.append_assoc, List.cons_append, List.singleton_append, scanOnce.eq_def]
      dsimp only
      rw [if_neg (by decide), if_pos rfl, hskip, if_neg (by rw [hhead]; decide), hparse,
        List.nil_append]

end Fields

/-! A writer that puts no white space. -/

def commaSep : List Str → Str
  | [] => []
  | [t] => t
  | t :: ts => t ++ comma :: commaSep ts

lemma commaSep_eq (ts : List Str) : commaSep ts = [comma].intercalate ts := by
  fun_induction commaSep ts with
  | case1 => rfl
  | case2 t => rw [List.intercalate_singleton]
  | case3 t ts hne ih => rw [ih, List.intercalate_cons_of_ne_nil hne, List.append_assoc]; rfl

def fieldText (f : Str × Str × Json) : Str := stringText f.1 ++ ofChar ':' :: f.2.1

lemma fieldText_eq : fieldText = fieldWith [] stringText := by
  funext f
  rw [fieldText, fieldWith, List.append_assoc]
  rfl

/-! ### Whole texts -/

theorem loads_reads {limit : ℕ} (h : Reads limit t v) : loads limit t = .ok v := by
  obtain ⟨c, s, hcons, hascii, -, -⟩ := h.starts
  have hmark : t.head? ≠ some byteOrderMark := by
    rw [hcons, List.head?_cons]
    intro heq
    have hval : byteOrderMark.val = 0xFEFF := rfl
    obtain rfl := Option.some.inj heq
    omega
  have hskip := h.skipSpace_append []
  have hscan := h.scan (2 * t.length) [] (by omega) endsValue_nil
  rw [List.append_nil] at hskip hscan
  rw [loads, if_neg hmark]
  simp only [hskip, hscan, bind, Except.bind]
  rfl

end Py
