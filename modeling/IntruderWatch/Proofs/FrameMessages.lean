import IntruderWatch.Detector
import IntruderWatch.Library.JsonDumps

/-!
# Frame messages

`json.loads` reads a message of the frame capturer back: the camera as an integer, hash and image
as strings, and the image decodes to the JPEG that went in.
-/

namespace IntruderWatch.Proofs
open Py

/-! ### Characters -/

lemma codePoint_ascii {c : UInt8} : (codePoint c.toNat).val = c.toNat := by
  have hlt := c.toNat_lt
  exact codePoint_val (by omega)

lemma plain_of_range {c : CodePoint} (h : 35 ≤ c.val ∧ c.val < 92 ∨ 93 ≤ c.val) : IsPlain c := by
  have hquote : quote.val = 34 := rfl
  have hbackslash : backslash.val = 92 := rfl
  refine ⟨?_, ?_, by omega⟩
  · rintro rfl
    omega
  · rintro rfl
    omega

lemma hexEncode_mem {s : Bytes} {c : UInt8} (h : c ∈ hexEncode s) :
    48 ≤ c.toNat ∧ c.toNat ≤ 57 ∨ 97 ≤ c.toNat ∧ c.toNat ≤ 102 := by
  have hdigit : ∀ v : Fin 16, 48 ≤ (hexEncode.hexDigit v).toNat ∧ (hexEncode.hexDigit v).toNat ≤ 57 ∨
      97 ≤ (hexEncode.hexDigit v).toNat ∧ (hexEncode.hexDigit v).toNat ≤ 102 := by decide
  obtain ⟨b, -, hc⟩ := List.mem_flatMap.mp h
  have hb := b.toNat_lt
  simp only [List.mem_cons, List.not_mem_nil, or_false] at hc
  rcases hc with rfl | rfl
  · exact hdigit ⟨b.toNat / 16, by omega⟩
  · exact hdigit ⟨b.toNat % 16, by omega⟩

lemma length_hexEncode (s : Bytes) : (hexEncode s).length = 2 * s.length := by
  induction s with
  | nil => rfl
  | cons b s ih =>
    have hcons : hexEncode (b :: s) = hexEncode.hexDigit (b.toNat / 16) ::
        hexEncode.hexDigit (b.toNat % 16) :: hexEncode s := rfl
    rw [hcons, List.length_cons, List.length_cons, ih, List.length_cons]
    ring

lemma mem_asciiText {b : List UInt8} {c : CodePoint} (h : c ∈ asciiText b) :
    ∃ d ∈ b, c.val = d.toNat := by
  obtain ⟨d, hd, rfl⟩ := List.mem_map.mp h
  exact ⟨d, hd, codePoint_ascii⟩

/-! ### Fields -/

def goInteger (n : GoInt) : Integer :=
  ⟨n.val, n.2.trans_lt ((Nat.pow_lt_pow_right (by norm_num) (by norm_num)).trans
    Binary64.pow_lt_strLimit)⟩

def boxItems (b : GoInt × GoInt × GoInt × GoInt) : List (Str × Json) :=
  [b.1, b.2.1, b.2.2.1, b.2.2.2].map (fun n => (decimal n.val, .int (goInteger n)))

def boxField (b : GoInt × GoInt × GoInt × GoInt) : Str × Str × Json :=
  (lit "motion_box", ofChar '[' :: commaSep ((boxItems b).map Prod.fst) ++ [closeBracket],
    .arr ((boxItems b).map Prod.snd))

def frameHash (f : CapturedFrame) : Str := asciiText (hexEncode f.digest)

/-- Key, text and value of the fields. -/
def frameFields (f : CapturedFrame) : List (Str × Str × Json) :=
  [(lit "camera", decimal f.camera.val, .int (goInteger f.camera)),
    (lit "hash", stringText (frameHash f), .str (frameHash f)),
    (lit "image", stringText (asciiText (Base64.encode f.jpegBytes)),
      .str (asciiText (Base64.encode f.jpegBytes)))] ++
  (f.motionBox.map boxField).toList ++
  (if f.isPostRoll then [(lit "is_post_roll", lit "true", .bool true)] else [])

lemma marshalText_eq (f : CapturedFrame) : marshalText f.payload =
    ofChar '\x7b' :: commaSep ((frameFields f).map fieldText) ++ [closeBrace] := by
  cases hbox : f.motionBox with
  | none =>
    cases hpost : f.isPostRoll with
    | false => simp [marshalText, CapturedFrame.payload, frameFields, fieldText, frameHash, hbox, hpost]
    | true => simp [marshalText, CapturedFrame.payload, frameFields, fieldText, frameHash, hbox, hpost]
  | some b =>
    cases hpost : f.isPostRoll with
    | false => simp [marshalText, CapturedFrame.payload, frameFields, fieldText, frameHash, boxField,
        boxItems, hbox, hpost]
    | true => simp [marshalText, CapturedFrame.payload, frameFields, fieldText, frameHash, boxField,
        boxItems, hbox, hpost]

lemma frameHash_plain (f : CapturedFrame) : ∀ c ∈ frameHash f, IsPlain c := by
  intro c hc
  obtain ⟨d, hd, hval⟩ := mem_asciiText hc
  have hrange := hexEncode_mem hd
  exact plain_of_range (by omega)

lemma frameImage_plain (f : CapturedFrame) :
    ∀ c ∈ asciiText (Base64.encode f.jpegBytes), IsPlain c := by
  intro c hc
  obtain ⟨d, hd, hval⟩ := mem_asciiText hc
  have hrange := Base64.encode_range hd
  exact plain_of_range (by omega)

lemma frameHash_ne_nil (f : CapturedFrame) : frameHash f ≠ [] := by
  apply List.ne_nil_of_length_pos
  rw [frameHash, asciiText, List.length_map, length_hexEncode, f.length_digest]
  norm_num

lemma boxField_reads {depth : ℕ} (b : GoInt × GoInt × GoInt × GoInt) :
    Reads (depth + 1) (boxField b).2.1 (boxField b).2.2 := by
  rw [boxField, commaSep_eq]
  apply Reads.arr (by simp)
  · simp [boxItems]
  · intro p hp
    obtain ⟨n, -, rfl⟩ := List.mem_map.mp hp
    exact Reads.int (goInteger n)

lemma frameFields_cases {f : CapturedFrame} {P : Str × Str × Json → Prop}
    (hcamera : P (lit "camera", decimal f.camera.val, .int (goInteger f.camera)))
    (hhash : P (lit "hash", stringText (frameHash f), .str (frameHash f)))
    (himage : P (lit "image", stringText (asciiText (Base64.encode f.jpegBytes)),
      .str (asciiText (Base64.encode f.jpegBytes))))
    (hbox : ∀ b, P (boxField b)) (hpost : P (lit "is_post_roll", lit "true", .bool true)) :
    ∀ p ∈ frameFields f, P p := by
  intro p hp
  simp only [frameFields, List.cons_append, List.nil_append, List.mem_cons, List.mem_append,
    Option.mem_toList, Option.map_eq_some_iff] at hp
  rcases hp with rfl | rfl | rfl | ⟨b, -, rfl⟩ | hp
  · exact hcamera
  · exact hhash
  · exact himage
  · exact hbox b
  · split at hp
    · obtain rfl := List.mem_singleton.mp hp
      exact hpost
    · cases hp

lemma plain_lit {s : Str} (h : s.all (fun c => 35 ≤ c.val ∧ c.val < 92 ∨ 93 ≤ c.val) = true) :
    ∀ c ∈ s, IsPlain c := by
  intro c hc
  exact plain_of_range (by simpa using List.all_eq_true.mp h c hc)

lemma frameFields_keys (f : CapturedFrame) :
    ∀ p ∈ frameFields f, ReadsString (stringText p.1) p.1 := by
  have hlit : ∀ {s : Str}, s.all (fun c => 35 ≤ c.val ∧ c.val < 92 ∨ 93 ≤ c.val) = true →
      ReadsString (stringText s) s := fun h => readsString_plain (plain_lit h)
  apply frameFields_cases
  · exact @hlit (lit "camera") (by decide)
  · exact @hlit (lit "hash") (by decide)
  · exact @hlit (lit "image") (by decide)
  · intro b
    exact @hlit (lit "motion_box") (by decide)
  · exact @hlit (lit "is_post_roll") (by decide)

lemma frameFields_reads {depth : ℕ} (f : CapturedFrame) :
    ∀ p ∈ frameFields f, Reads (depth + 1) p.2.1 p.2.2 := by
  apply frameFields_cases
  · exact Reads.int (goInteger f.camera)
  · exact (readsString_plain (frameHash_plain f)).reads
  · exact (readsString_plain (frameImage_plain f)).reads
  · exact boxField_reads
  · exact Reads.true

lemma frameFields_nodup (f : CapturedFrame) : ((frameFields f).map Prod.fst).Nodup := by
  have hkeys : [lit "camera", lit "hash", lit "image", lit "motion_box", lit "is_post_roll"].Nodup := by
    decide
  apply List.Nodup.sublist _ hkeys
  cases hbox : f.motionBox with
  | none => cases hpost : f.isPostRoll <;> simp [frameFields, hbox, hpost]
  | some b => cases hpost : f.isPostRoll <;> simp [frameFields, boxField, hbox, hpost]

/-! ### Messages -/

lemma decode_asciiBytes {s : Str} (h : ∀ c ∈ s, c.val < 128) :
    decode (s.map (fun c => UInt8.ofNat c.val)) = .ok s := by
  apply decode_encode
  induction s with
  | nil => rfl
  | cons c s ih =>
    have hc := h c List.mem_cons_self
    have hbytes : encodeCodePoint c = some [UInt8.ofNat c.val] := by
      rw [encodeCodePoint]
      exact if_pos hc
    rw [encode, hbytes, ih (fun d hd => h d (List.mem_cons_of_mem c hd))]
    rfl

lemma asciiText_commaBracketed {left right : CodePoint} {ts : List Str} (hleft : left.val < 128)
    (hright : right.val < 128) (h : ∀ t ∈ ts, AsciiText t) :
    AsciiText (left :: commaSep ts ++ [right]) := by
  rw [commaSep_eq]
  exact AsciiText.bracketed hleft hright (asciiText_of_isAscii (by decide)) h

lemma asciiText_stringText {s : Str} (h : AsciiText s) : AsciiText (stringText s) :=
  (h.cons (by decide)).append (asciiText_of_isAscii (by decide))

lemma asciiText_of_bytes {b : List UInt8} (h : ∀ c ∈ b, c.toNat < 128) : AsciiText (asciiText b) := by
  intro c hc
  obtain ⟨d, hd, hval⟩ := mem_asciiText hc
  have hlt := h d hd
  omega

lemma frameHash_ascii (f : CapturedFrame) : AsciiText (frameHash f) := by
  apply asciiText_of_bytes
  intro c hc
  have hrange := hexEncode_mem hc
  omega

lemma frameImage_ascii (f : CapturedFrame) : AsciiText (asciiText (Base64.encode f.jpegBytes)) := by
  apply asciiText_of_bytes
  intro c hc
  have hrange := Base64.encode_range hc
  omega

lemma frameFields_ascii (f : CapturedFrame) : ∀ p ∈ frameFields f, AsciiText (fieldText p) := by
  have hfield : ∀ (key text : Str) (value : Json), isAscii key = true → AsciiText text →
      AsciiText (fieldText (key, text, value)) := fun key text value hkey htext =>
    (asciiText_stringText (asciiText_of_isAscii hkey)).append (htext.cons (by decide))
  apply frameFields_cases
  · exact hfield _ _ _ (by decide) (asciiText_decimal _)
  · exact hfield _ _ _ (by decide) (asciiText_stringText (frameHash_ascii f))
  · exact hfield _ _ _ (by decide) (asciiText_stringText (frameImage_ascii f))
  · intro b
    apply hfield _ _ _ (by decide)
    apply asciiText_commaBracketed (by decide) (by decide)
    intro t ht
    obtain ⟨p, hp, rfl⟩ := List.mem_map.mp ht
    obtain ⟨n, -, rfl⟩ := List.mem_map.mp hp
    exact asciiText_decimal _
  · exact hfield _ _ _ (by decide) (asciiText_of_isAscii (by decide))

lemma marshalText_ascii (f : CapturedFrame) : AsciiText (marshalText f.payload) := by
  rw [marshalText_eq]
  apply asciiText_commaBracketed (by decide) (by decide)
  intro t ht
  obtain ⟨p, hp, rfl⟩ := List.mem_map.mp ht
  exact frameFields_ascii f p hp

variable {Image : Type} {env : DetectorEnv Image}

/-- The detector reads the fields that the capturer wrote. -/
theorem readPayload_marshal (hlimit : 2 ≤ env.loadsLimit) (f : CapturedFrame) :
    env.readPayload (marshal f.payload) = .ok ((frameFields f).map fieldValue) := by
  obtain ⟨depth, hdepth⟩ : ∃ depth, env.loadsLimit = depth + 2 := ⟨env.loadsLimit - 2, by omega⟩
  have hreads : Reads env.loadsLimit (marshalText f.payload)
      (.obj ((frameFields f).map fieldValue)) := by
    rw [marshalText_eq, hdepth, commaSep_eq, fieldText_eq]
    exact Reads.obj (by simp) (by simp [frameFields]) (frameFields_keys f) (frameFields_reads f)
      (frameFields_nodup f)
  rw [DetectorEnv.readPayload, marshal, decode_asciiBytes (marshalText_ascii f)]
  simp only [bind, Except.bind, loads_reads hreads]

/-- `payload["image"]` is the JPEG in Base64. -/
lemma b64decode_image (f : CapturedFrame) :
    b64decode (.str (asciiText (Base64.encode f.jpegBytes))) = .ok f.jpegBytes :=
  b64decode_encode f.jpegBytes

end IntruderWatch.Proofs
