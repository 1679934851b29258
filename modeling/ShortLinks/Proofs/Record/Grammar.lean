import ShortLinks.Proofs.Record.RoundTrip

/-!
# Tokens that are well-formed

A record is JSON. Its blanks, strings and numbers are described here without the readers, and each reader takes the whole
token and leaves what follows.
-/

set_option autoImplicit false

namespace ShortLinks.Record

def Blank (s : Bytes) : Prop := ∀ b ∈ s, b ∈ [32, 9, 10, 13]

/-- What follows a value, if anything does: a blank, a comma, a closing bracket or a closing brace. -/
def Ends (rest : Bytes) : Prop := ∀ b ∈ rest.head?, b ∈ [32, 9, 10, 13, 44, 93, 125]

def HexDigit (b : UInt8) (n : Nat) : Prop :=
  (Bytes.ofText "0123456789abcdef")[n]? = some b ∨ (Bytes.ofText "0123456789ABCDEF")[n]? = some b

inductive Hex4 : Bytes → Nat → Prop where
  | intro {a b c d : UInt8} {w x y z : Nat} (ha : HexDigit a w) (hb : HexDigit b x) (hc : HexDigit c y)
      (hd : HexDigit d z) : Hex4 [a, b, c, d] (4096 * w + 256 * x + 16 * y + z)

def escapes : List (UInt8 × Char) :=
  [(34, '"'), (92, '\\'), (47, '/'), (98, '\x08'), (102, '\x0c'), (110, '\n'), (114, '\r'), (116, '\t')]

/-- How a character may be written in a string. -/
inductive Writes : Bytes → Char → Prop where
  | itself {c : Char} (hcontrol : 32 ≤ c.toNat) (hquote : c ≠ '"') (hbackslash : c ≠ '\\') :
      Writes (String.utf8EncodeChar c) c
  | letter {b : UInt8} {c : Char} (h : (b, c) ∈ escapes) : Writes [92, b] c
  | code {digits : Bytes} {c : Char} (h : Hex4 digits c.toNat) : Writes (92 :: 117 :: digits) c
  | pair {high low : Bytes} {c : Char} {n m : Nat} (hhigh : Hex4 high (0xD800 + n)) (hlow : Hex4 low (0xDC00 + m))
      (hn : n < 1024) (hm : m < 1024) (hc : c.toNat = 0x10000 + 1024 * n + m) :
      Writes (92 :: 117 :: (high ++ 92 :: 117 :: low)) c

/-- How a text may be written between quotes. -/
inductive Spells : Bytes → List Char → Prop where
  | nil : Spells [] []
  | cons {piece s : Bytes} {c : Char} {cs : List Char} (hc : Writes piece c) (hcs : Spells s cs) :
      Spells (piece ++ s) (c :: cs)

/-- What may stand between quotes in a value that nobody reads: codes need not come in pairs there, and bytes need not
make up characters. -/
inductive Quoted : Bytes → Prop where
  | nil : Quoted []
  | plain {b : UInt8} {s : Bytes} (hcontrol : ¬ b < 32) (hquote : b ≠ 34) (hbackslash : b ≠ 92) (hs : Quoted s) :
      Quoted (b :: s)
  | letter {b : UInt8} {c : Char} {s : Bytes} (h : (b, c) ∈ escapes) (hs : Quoted s) : Quoted (92 :: b :: s)
  | code {digits s : Bytes} {n : Nat} (h : Hex4 digits n) (hs : Quoted s) : Quoted (92 :: 117 :: (digits ++ s))

def Digits (s : Bytes) : Prop := s ≠ [] ∧ ∀ b ∈ s, Bytes.isDigit b = true

/-- A number without its sign does not start with a zero, unless it is one. -/
inductive Whole : Bytes → Prop where
  | zero : Whole [48]
  | digits {b : UInt8} {s : Bytes} (hb : b ≠ 48) (h : Digits (b :: s)) : Whole (b :: s)

inductive Fraction : Bytes → Prop where
  | none : Fraction []
  | digits {s : Bytes} (h : Digits s) : Fraction (46 :: s)

inductive Exponent : Bytes → Prop where
  | none : Exponent []
  | digits {mark : UInt8} {sign s : Bytes} (hmark : mark = 101 ∨ mark = 69) (hsign : sign ∈ [[], [43], [45]])
      (h : Digits s) : Exponent (mark :: (sign ++ s))

inductive Number : Bytes → Prop where
  | intro {minus whole fraction exponent : Bytes} (hminus : minus ∈ [[], [45]]) (hwhole : Whole whole)
      (hfraction : Fraction fraction) (hexponent : Exponent exponent) :
      Number (minus ++ (whole ++ (fraction ++ exponent)))

inductive Scalar : Bytes → Prop where
  | word {w : String} (h : w ∈ ["null", "true", "false"]) : Scalar (Bytes.ofText w)
  | text {s : Bytes} (h : Quoted s) : Scalar (34 :: (s ++ [34]))
  | number {s : Bytes} (h : Number s) : Scalar s

variable {s rest blanks before : Bytes} {b : UInt8} {c : Char} {n : Nat}

theorem Blank.isRecordBlank (h : Blank blanks) (hb : b ∈ blanks) : Bytes.isRecordBlank b = true := by
  have hmem := h b hb
  simp only [List.mem_cons, List.not_mem_nil, or_false] at hmem
  rcases hmem with rfl | rfl | rfl | rfl <;> rfl

theorem Blank.skipBlanks_append (h : Blank blanks) (s : Bytes) : skipBlanks (blanks ++ s) = skipBlanks s :=
  List.dropWhile_append_of_pos fun _ hb => h.isRecordBlank hb

theorem Blank.skipBlanks_append_cons (h : Blank blanks) (hb : Bytes.isRecordBlank b = false) (s : Bytes) :
    skipBlanks (blanks ++ b :: s) = b :: s :=
  (h.skipBlanks_append _).trans (skipBlanks_cons hb s)

theorem Blank.append (h : Blank blanks) (h' : Blank s) : Blank (blanks ++ s) := List.forall_mem_append.mpr ⟨h, h'⟩

theorem Blank.ends_append (h : Blank blanks) (hrest : Ends rest) : Ends (blanks ++ rest) := by
  cases blanks with
  | nil => exact hrest
  | cons b blanks =>
    rintro _ ⟨⟩
    exact List.mem_append_left [44, 93, 125] (h b List.mem_cons_self)

theorem hexValue?_of_hexDigit (h : HexDigit b n) : Bytes.hexValue? b = some n := by
  have hsmall : ∀ n < 16, (Bytes.ofText "0123456789abcdef")[n]?.bind Bytes.hexValue? = some n := by decide
  have hcapital : ∀ n < 16, (Bytes.ofText "0123456789ABCDEF")[n]?.bind Bytes.hexValue? = some n := by decide
  rcases h with h | h
  · have hvalue := hsmall n (List.getElem?_eq_some_iff.mp h).1
    rwa [h] at hvalue
  · have hvalue := hcapital n (List.getElem?_eq_some_iff.mp h).1
    rwa [h] at hvalue

theorem Hex4.exists_value {digits : Bytes} (h : Hex4 digits n) : ∃ w x y z, digits = [w, x, y, z] ∧ hex4? w x y z = some n := by
  obtain ⟨ha, hb, hc, hd⟩ := h
  refine ⟨_, _, _, _, rfl, ?_⟩
  simp [hex4?, hexValue?_of_hexDigit ha, hexValue?_of_hexDigit hb, hexValue?_of_hexDigit hc, hexValue?_of_hexDigit hd]

theorem simpleEscape?_of_mem (h : (b, c) ∈ escapes) : ∃ e, simpleEscape? b = some e ∧ String.utf8EncodeChar c = [e] := by
  have hall : ∀ w ∈ escapes, (simpleEscape? w.1).map ([·]) = some (String.utf8EncodeChar w.2) := by decide
  obtain ⟨e, he, hbytes⟩ := Option.map_eq_some_iff.mp (hall _ h)
  exact ⟨e, he, hbytes.symm⟩

theorem skipChars_quoted (h : Quoted s) (rest : Bytes) : skipChars (s ++ quote :: rest) = .ok rest := by
  induction h with
  | nil => exact skipChars_quote rest
  | plain hcontrol hquote hbackslash _ ih => exact (skipChars_plain hquote hbackslash hcontrol _).trans ih
  | letter h _ ih =>
    obtain ⟨e, he, -⟩ := simpleEscape?_of_mem h
    exact (skipChars_simple he _).trans ih
  | code h _ ih =>
    obtain ⟨w, x, y, z, rfl, hvalue⟩ := h.exists_value
    exact (skipChars_unicode hvalue _).trans ih

theorem eq_or_le_of_mem_utf8EncodeChar (hb : b ∈ String.utf8EncodeChar c) : b.toNat = c.toNat ∨ 128 ≤ b.toNat := by
  unfold String.utf8EncodeChar at hb
  extract_lets v at hb
  have hv : v = c.toNat := rfl
  split at hb
  · next hle =>
    rw [List.mem_singleton.mp hb, UInt8.toNat_ofNat']
    omega
  · right
    split at hb
    · simp only [List.mem_cons, List.not_mem_nil, or_false] at hb
      rcases hb with rfl | rfl <;> (rw [UInt8.toNat_ofNat']; omega)
    · split at hb
      · simp only [List.mem_cons, List.not_mem_nil, or_false] at hb
        rcases hb with rfl | rfl | rfl <;> (rw [UInt8.toNat_ofNat']; omega)
      · simp only [List.mem_cons, List.not_mem_nil, or_false] at hb
        rcases hb with rfl | rfl | rfl | rfl <;> (rw [UInt8.toNat_ofNat']; omega)

def Plain (s : Bytes) : Prop := ∀ b ∈ s, ¬ b < 32 ∧ b ≠ quote ∧ b ≠ backslash

theorem plain_utf8EncodeChar (hcontrol : 32 ≤ c.toNat) (hquote : c ≠ '"') (hbackslash : c ≠ '\\') :
    Plain (String.utf8EncodeChar c) := by
  intro b hb
  have hne : c.toNat ≠ 34 ∧ c.toNat ≠ 92 := ⟨fun h => hquote (Char.toNat_inj.mp h), fun h => hbackslash (Char.toNat_inj.mp h)⟩
  have hbyte := eq_or_le_of_mem_utf8EncodeChar hb
  refine ⟨?_, ?_, ?_⟩
  · rw [UInt8.lt_iff_toNat_lt]
    show ¬ b.toNat < 32
    omega
  · rintro rfl
    change 34 = _ ∨ 128 ≤ 34 at hbyte
    omega
  · rintro rfl
    change 92 = _ ∨ 128 ≤ 92 at hbyte
    omega

theorem prepend_prepend (front middle : Bytes) (r : Scan Bytes) :
    (r.prepend middle).prepend front = r.prepend (front ++ middle) := by
  cases r with
  | error e => rfl
  | ok r => simp [Scan.prepend, Except.map]

theorem readChars_plains {bs : Bytes} (h : Plain bs) (s : Bytes) : readChars (bs ++ s) = (readChars s).prepend bs := by
  induction bs with
  | nil => cases hs : readChars s <;> simp [Scan.prepend, Except.map, hs]
  | cons b bs ih =>
    obtain ⟨⟨hcontrol, hquote, hbackslash⟩, hbs⟩ := List.forall_mem_cons.mp h
    rw [List.cons_append, readChars_plain hquote hbackslash hcontrol, ih hbs, prepend_prepend]
    rfl

theorem not_surrogate (c : Char) : isTrailingSurrogate c.toNat = false ∧ isLeadingSurrogate c.toNat = false := by
  have hvalid : c.toNat < 0xD800 ∨ (0xDFFF < c.toNat ∧ c.toNat < 0x110000) := c.valid
  simp only [isTrailingSurrogate, isLeadingSurrogate, Bool.and_eq_false_iff, decide_eq_false_iff_not]
  omega

theorem codePoint_toNat (c : Char) : codePoint c.toNat = String.utf8EncodeChar c := by
  rw [codePoint, Char.ofNat_toNat]

theorem readChars_writes {piece : Bytes} (h : Writes piece c) (s : Bytes) :
    readChars (piece ++ s) = (readChars s).prepend (String.utf8EncodeChar c) := by
  cases h with
  | itself hcontrol hquote hbackslash => exact readChars_plains (plain_utf8EncodeChar hcontrol hquote hbackslash) s
  | letter h =>
    obtain ⟨e, he, hbytes⟩ := simpleEscape?_of_mem h
    rw [hbytes]
    exact readChars_simple he s
  | code h =>
    obtain ⟨w, x, y, z, rfl, hvalue⟩ := h.exists_value
    rw [← codePoint_toNat]
    exact readChars_unicode hvalue (not_surrogate c).1 (not_surrogate c).2 s
  | @pair high low _ n m hhigh hlow hn hm hc =>
    obtain ⟨w, x, y, z, rfl, hvalue⟩ := hhigh.exists_value
    obtain ⟨w', x', y', z', rfl, hvalue'⟩ := hlow.exists_value
    have hl : isLeadingSurrogate (0xD800 + n) = true := by
      simp [isLeadingSurrogate]
      omega
    have ht : isTrailingSurrogate (0xDC00 + m) = true := by
      simp [isTrailingSurrogate]
      omega
    have hread := readChars_pair hvalue hl hvalue' ht s
    rw [Nat.add_sub_cancel_left, Nat.add_sub_cancel_left, ← hc, codePoint_toNat] at hread
    exact hread

theorem readChars_spells {cs : List Char} (h : Spells s cs) (rest : Bytes) :
    readChars (s ++ quote :: rest) = .ok (cs.flatMap String.utf8EncodeChar, rest) := by
  induction h with
  | nil => exact readChars_quote rest
  | cons hc _ ih =>
    rw [List.append_assoc, readChars_writes hc, ih]
    rfl

theorem flatMap_utf8EncodeChar (text : String) : text.toList.flatMap String.utf8EncodeChar = Bytes.ofText text := by
  unfold Bytes.ofText
  rw [String.toUTF8_eq_toByteArray, ← String.utf8Encode_toList]
  unfold List.utf8Encode
  simp

theorem readText_spells {text : String} (h : Spells s text.toList) (rest : Bytes) :
    readText (s ++ quote :: rest) = .ok (text, rest) := by
  rw [readText_eq_ok, readChars_spells h, flatMap_utf8EncodeChar]

theorem quoted_plains {bs : Bytes} (h : Plain bs) (hs : Quoted s) : Quoted (bs ++ s) := by
  induction bs with
  | nil => exact hs
  | cons b bs ih =>
    obtain ⟨⟨hcontrol, hquote, hbackslash⟩, hbs⟩ := List.forall_mem_cons.mp h
    exact .plain hcontrol hquote hbackslash (ih hbs)

theorem Spells.quoted {cs : List Char} (h : Spells s cs) : Quoted s := by
  induction h with
  | nil => exact .nil
  | cons hc _ ih =>
    cases hc with
    | itself hcontrol hquote hbackslash => exact quoted_plains (plain_utf8EncodeChar hcontrol hquote hbackslash) ih
    | letter h => exact .letter h ih
    | code h => exact .code h ih
    | pair hhigh hlow =>
      rw [List.cons_append, List.cons_append, List.append_assoc]
      exact .code hhigh (.code hlow ih)

theorem hexDigit_lowerHexDigit : ∀ n < 16, HexDigit (lowerHexDigit n) n := by
  unfold HexDigit
  decide

theorem utf8EncodeChar_of_lt (h : c.toNat < 128) : String.utf8EncodeChar c = [UInt8.ofNat c.toNat] :=
  if_pos (Nat.le_of_lt_succ h)

theorem writes_escapeByte (hc : b.toNat = c.toNat) (hascii : c.toNat < 128) : Writes (escapeByte b) c := by
  have heq {d : Char} {a : UInt8} (had : a.toNat = d.toNat) (hb : b = a) : c = d :=
    Char.toNat_inj.mp (hc.symm.trans ((congrArg UInt8.toNat hb).trans had))
  unfold escapeByte
  split
  · next hb => exact heq (d := '"') rfl hb ▸ .letter (by decide)
  split
  · next hb => exact heq (d := '\\') rfl hb ▸ .letter (by decide)
  split
  · next hb => exact heq (d := '\x08') rfl hb ▸ .letter (by decide)
  split
  · next hb => exact heq (d := '\t') rfl hb ▸ .letter (by decide)
  split
  · next hb => exact heq (d := '\n') rfl hb ▸ .letter (by decide)
  split
  · next hb => exact heq (d := '\x0c') rfl hb ▸ .letter (by decide)
  split
  · next hb => exact heq (d := '\r') rfl hb ▸ .letter (by decide)
  split
  · next hb =>
    have hlt : b.toNat < 32 := hb
    have hzero : HexDigit 48 0 := hexDigit_lowerHexDigit 0 (by decide)
    have hcode := Hex4.intro hzero hzero (hexDigit_lowerHexDigit (b.toNat / 16) (by omega))
      (hexDigit_lowerHexDigit (b.toNat % 16) (by omega))
    refine .code ?_
    rw [← hc]
    convert hcode using 1
    omega
  · next hquote hbackslash _ _ _ _ _ hcontrol =>
    have hbyte : String.utf8EncodeChar c = [b] := by
      rw [utf8EncodeChar_of_lt hascii, ← hc, UInt8.ofNat_toNat]
    have hspace : ¬ b.toNat < 32 := hcontrol
    rw [← hbyte]
    refine .itself (by omega) ?_ ?_
    · rintro rfl
      exact hquote (UInt8.toNat_inj.mp hc)
    · rintro rfl
      exact hbackslash (UInt8.toNat_inj.mp hc)

theorem escapeByte_of_le (h : 128 ≤ b.toNat) : escapeByte b = [b] := by
  have hne {a : UInt8} (ha : a.toNat < 128) : b ≠ a := by
    rintro rfl
    omega
  have hcontrol : ¬ b < 32 := by
    rw [UInt8.lt_iff_toNat_lt]
    show ¬ b.toNat < 32
    omega
  unfold escapeByte
  rw [if_neg (hne (by decide)), if_neg (hne (by decide)), if_neg (hne (by decide)), if_neg (hne (by decide)),
    if_neg (hne (by decide)), if_neg (hne (by decide)), if_neg (hne (by decide)), if_neg hcontrol]

theorem writes_escape (c : Char) : Writes ((String.utf8EncodeChar c).flatMap escapeByte) c := by
  by_cases hascii : c.toNat < 128
  · rw [utf8EncodeChar_of_lt hascii, List.flatMap_singleton]
    exact writes_escapeByte (Nat.mod_eq_of_lt (by omega)) hascii
  · have hplain : ∀ b ∈ String.utf8EncodeChar c, escapeByte b = [b] := fun b hb => escapeByte_of_le (by
      have hbyte := eq_or_le_of_mem_utf8EncodeChar hb
      omega)
    rw [List.flatMap_def, List.map_congr_left hplain, ← List.flatMap_def, List.flatMap_singleton']
    refine .itself (by omega) ?_ ?_
    · rintro rfl
      exact hascii (by decide)
    · rintro rfl
      exact hascii (by decide)

theorem spells_escape (text : String) : Spells ((Bytes.ofText text).flatMap escapeByte) text.toList := by
  rw [← flatMap_utf8EncodeChar, List.flatMap_assoc]
  induction text.toList with
  | nil => exact .nil
  | cons c cs ih => exact .cons (writes_escape c) ih

theorem skipDigits_append {ds : Bytes} (hds : ∀ b ∈ ds, Bytes.isDigit b = true)
    (hrest : ∀ b ∈ rest.head?, Bytes.isDigit b = false) : skipDigits (ds ++ rest) = rest := by
  refine (List.dropWhile_append_of_pos hds).trans ?_
  cases rest with
  | nil => rfl
  | cons b rest => exact List.dropWhile_cons_of_neg (by simp [hrest b rfl])

theorem Digits.exists_cons (h : Digits s) :
    ∃ b t, s = b :: t ∧ Bytes.isDigit b = true ∧ ∀ d ∈ t, Bytes.isDigit d = true := by
  obtain ⟨b, t, rfl⟩ := List.exists_cons_of_ne_nil h.1
  exact ⟨b, t, rfl, List.forall_mem_cons.mp h.2⟩

theorem Ends.not_number (h : Ends rest) (hb : b ∈ rest.head?) :
    Bytes.isDigit b = false ∧ b ≠ 46 ∧ isExponentMark b = false := by
  have hall : ∀ b ∈ ([32, 9, 10, 13, 44, 93, 125] : Bytes), Bytes.isDigit b = false ∧ b ≠ 46 ∧ isExponentMark b = false := by
    decide +kernel
  exact hall b (h b hb)

theorem isSign_of_isDigit (hb : Bytes.isDigit b = true) : isSign b = false := by
  have hplus : b ≠ 43 := by
    rintro rfl
    exact absurd hb (by decide)
  have hminus : b ≠ 45 := by
    rintro rfl
    exact absurd hb (by decide)
  simp [isSign, hplus, hminus]

theorem skipExponent_digits {sign : Bytes} (hsign : sign ∈ [[], [43], [45]]) (h : Digits s)
    (hrest : ∀ b ∈ rest.head?, Bytes.isDigit b = false) : skipExponent (sign ++ (s ++ rest)) = .ok rest := by
  obtain ⟨b, t, rfl, hb, ht⟩ := h.exists_cons
  have hskip : skipSign (sign ++ (b :: t ++ rest)) = b :: (t ++ rest) := by
    simp only [List.mem_cons, List.not_mem_nil, or_false] at hsign
    rcases hsign with rfl | rfl | rfl
    · simp [skipSign, isSign_of_isDigit hb]
    · rfl
    · rfl
  unfold skipExponent
  rw [hskip]
  simp [hb, skipDigits_append ht hrest]

theorem skipExponentPart_exponent (h : Exponent s) (hrest : Ends rest) : skipExponentPart (s ++ rest) = .ok rest := by
  cases h with
  | none =>
    cases rest with
    | nil => rfl
    | cons b rest => simp [skipExponentPart, (hrest.not_number (b := b) rfl).2.2]
  | digits hmark hsign h =>
    have hexponent := skipExponent_digits hsign h fun b hb => (hrest.not_number hb).1
    rcases hmark with rfl | rfl <;> simpa [skipExponentPart, isExponentMark] using hexponent

theorem Exponent.head?_append (h : Exponent s) (hrest : Ends rest) (hb : b ∈ (s ++ rest).head?) :
    Bytes.isDigit b = false ∧ b ≠ 46 := by
  cases h with
  | none => exact ⟨(hrest.not_number hb).1, (hrest.not_number hb).2.1⟩
  | digits hmark =>
    cases hb
    rcases hmark with rfl | rfl <;> decide

theorem Fraction.head?_append {fraction : Bytes} (h : Fraction fraction) (hs : Exponent s) (hrest : Ends rest)
    (hb : b ∈ (fraction ++ (s ++ rest)).head?) : Bytes.isDigit b = false := by
  cases h with
  | none => exact (hs.head?_append hrest hb).1
  | digits =>
    cases hb
    decide

theorem skipFraction_fraction {fraction : Bytes} (h : Fraction fraction) (hs : Exponent s) (hrest : Ends rest) :
    skipFraction (fraction ++ (s ++ rest)) = .ok rest := by
  have hexponent := skipExponentPart_exponent hs hrest
  have hnext (b : UInt8) (hb : b ∈ (s ++ rest).head?) := hs.head?_append hrest hb
  cases h with
  | none =>
    -- The equation for what is no fraction asks that no dot comes next.
    rw [List.nil_append, skipFraction]
    · exact hexponent
    · rintro t ht
      exact (hnext 46 (by rw [ht]; rfl)).2 rfl
  | digits h =>
    obtain ⟨b, t, rfl, hb, ht⟩ := h.exists_cons
    have hdigits := skipDigits_append h.2 fun b hb => (hnext b hb).1
    -- That there are digits at all is read off the length of what they leave.
    have hlonger : ¬ (skipDigits (b :: t ++ (s ++ rest))).length = (b :: t ++ (s ++ rest)).length := by
      rw [length_skipDigits_eq_iff]
      simp [hb]
    rw [List.cons_append, skipFraction, if_neg hlonger, hdigits, hexponent]

theorem skipNumber_whole {whole fraction : Bytes} (h : Whole whole) (hfraction : Fraction fraction) (hs : Exponent s)
    (hrest : Ends rest) : skipNumber (whole ++ (fraction ++ (s ++ rest))) = .ok rest := by
  have hmore := skipFraction_fraction hfraction hs hrest
  have hnext (b : UInt8) (hb : b ∈ (fraction ++ (s ++ rest)).head?) := hfraction.head?_append hs hrest hb
  cases h with
  | zero =>
    have hnone : (fraction ++ (s ++ rest)).head?.any Bytes.isDigit = false := by
      cases hhead : (fraction ++ (s ++ rest)).head? with
      | none => rfl
      | some b => exact hnext b hhead
    rw [List.singleton_append, skipNumber, if_pos rfl, if_neg (by rw [hnone]; decide), hmore]
  | digits hb h =>
    obtain ⟨hdigit, hdigits⟩ := List.forall_mem_cons.mp h.2
    rw [List.cons_append, skipNumber, if_neg hb, if_pos hdigit, skipDigits_append hdigits hnext, hmore]

theorem Whole.exists_cons (h : Whole s) : ∃ b t, s = b :: t ∧ Bytes.isDigit b = true := by
  cases h with
  | zero => exact ⟨48, [], rfl, by decide⟩
  | @digits b t _ h => exact ⟨b, t, rfl, h.2 b List.mem_cons_self⟩

theorem skipScalar_digit (hb : Bytes.isDigit b = true) (s : Bytes) : skipScalar (b :: s) = some (skipNumber (b :: s)) := by
  unfold skipScalar
  split <;> simp_all [Bytes.isDigit]

theorem skipScalar_number (h : Number s) (hrest : Ends rest) : skipScalar (s ++ rest) = some (.ok rest) := by
  obtain ⟨hminus, hwhole, hfraction, hexponent⟩ := h
  have hnumber := congrArg some (skipNumber_whole hwhole hfraction hexponent hrest)
  simp only [List.mem_cons, List.not_mem_nil, or_false] at hminus
  simp only [List.append_assoc]
  rcases hminus with rfl | rfl
  · obtain ⟨b, t, rfl, hb⟩ := hwhole.exists_cons
    exact (skipScalar_digit hb _).trans hnumber
  · exact hnumber

theorem skipScalar_scalar (h : Scalar s) (hrest : Ends rest) : skipScalar (s ++ rest) = some (.ok rest) := by
  cases h with
  | word h =>
    simp only [List.mem_cons, List.not_mem_nil, or_false] at h
    rcases h with rfl | rfl | rfl
    · rw [show Bytes.ofText "null" = 110 :: nullTail by decide]
      rfl
    · rw [show Bytes.ofText "true" = 116 :: trueTail by decide]
      rfl
    · rw [show Bytes.ofText "false" = 102 :: falseTail by decide]
      rfl
  | text h =>
    rw [List.cons_append, List.append_assoc]
    exact congrArg some (skipChars_quoted h rest)
  | number h => exact skipScalar_number h hrest

theorem head_of_skipScalar (h : skipScalar (b :: s) = some (.ok rest)) : b ∉ [32, 9, 10, 13, 91, 93, 123] := by
  intro hb
  simp only [List.mem_cons, List.not_mem_nil, or_false] at hb
  rcases hb with rfl | rfl | rfl | rfl | rfl | rfl | rfl <;> simp [skipScalar, Bytes.isDigit] at h

end ShortLinks.Record
