import ShortLinks.Proofs.Record.RoundTrip

/-!
# Records that were cut off

Where a record was cut off and another one follows, the two are no record. Between its tokens a reader stops at the brace
that the other one opens with. Within a string it goes on to the first quote there, and stops at the letter after it.
-/

set_option autoImplicit false

namespace ShortLinks.Record

theorem cut_append {q a b : Bytes} (h : q <+: a ++ b) : (q <+: a ∧ q ≠ a) ∨ ∃ q', q = a ++ q' ∧ q' <+: b := by
  rcases List.prefix_or_prefix_of_prefix h (List.prefix_append a b) with hq | ⟨q', rfl⟩
  · by_cases hall : q = a
    · exact .inr ⟨[], by rw [hall, List.append_nil], List.nil_prefix⟩
    · exact .inl ⟨hq, hall⟩
  · exact .inr ⟨q', rfl, (List.prefix_append_right_inj a).mp h⟩

theorem cut_cons {q a : Bytes} {b : UInt8} (h : q <+: b :: a) (hall : q ≠ b :: a) :
    q = [] ∨ ∃ q', q = b :: q' ∧ q' <+: a ∧ q' ≠ a := by
  rcases List.prefix_cons_iff.mp h with hnil | ⟨q', rfl, hq'⟩
  · exact .inl hnil
  · exact .inr ⟨q', rfl, hq', fun heq => hall (heq ▸ rfl)⟩

/-- A text that starts with a letter or a brace that opens: no token of a record goes on so. -/
def Stray (s : Bytes) : Prop := ∃ b t, s = b :: t ∧ (b = 105 ∨ b = 123)

/-- How a text goes on where records were cut off: braces, the quote of a first key, and either the key or the brace of
the next record. -/
inductive Resumes : Bytes → Prop where
  | key {rest : Bytes} (h : Stray rest) : Resumes (123 :: 34 :: rest)
  | brace {rest : Bytes} (h : Resumes rest) : Resumes (123 :: rest)

theorem Resumes.exists_cons {rest : Bytes} (h : Resumes rest) : ∃ t, rest = 123 :: t := by
  cases h with
  | key => exact ⟨_, rfl⟩
  | brace => exact ⟨_, rfl⟩

theorem Resumes.stray {rest : Bytes} (h : Resumes rest) : Stray rest := by
  obtain ⟨t, rfl⟩ := h.exists_cons
  exact ⟨123, t, rfl, .inr rfl⟩

section Stray

variable {α : Type} {s left : Bytes} {m m' : Members}

theorem Stray.skipBlanks_eq (h : Stray s) : skipBlanks s = s := by
  obtain ⟨b, t, rfl, rfl | rfl⟩ := h <;> exact skipBlanks_cons (by decide) t

theorem Stray.skipColon_ne_ok (h : Stray s) : skipColon s ≠ .ok left := by
  unfold skipColon
  rw [h.skipBlanks_eq]
  obtain ⟨b, t, rfl, rfl | rfl⟩ := h <;> simp

theorem Stray.readTextValue_ne_ok {text : String} (h : Stray s) : readTextValue s ≠ .ok (text, left) := by
  unfold readTextValue
  rw [h.skipBlanks_eq]
  obtain ⟨b, t, rfl, rfl | rfl⟩ := h <;> exact wrongType_ne_ok _ _ _

theorem readOptionalText_eq {b : UInt8} {t : Bytes} (h : skipBlanks s = b :: t) (hb : b ≠ 110) :
    readOptionalText s = (readTextValue (b :: t)).map fun p => (some p.1, p.2) := by
  unfold readOptionalText
  rw [h]
  split
  · next heq =>
    cases heq
    exact absurd rfl hb
  · rfl

theorem Stray.readOptionalText_ne_ok {text : Option String} (h : Stray s) : readOptionalText s ≠ .ok (text, left) := by
  intro hread
  obtain ⟨b, t, rfl, hb⟩ := id h
  rw [readOptionalText_eq h.skipBlanks_eq (by rcases hb with rfl | rfl <;> decide)] at hread
  obtain ⟨⟨v, r⟩, hv, heq⟩ := map_eq_ok.mp hread
  cases heq
  exact h.readTextValue_ne_ok hv

theorem Stray.readBoolean_ne_ok {v : Bool} (h : Stray s) : readBoolean s ≠ .ok (v, left) := by
  unfold readBoolean
  rw [h.skipBlanks_eq]
  obtain ⟨b, t, rfl, rfl | rfl⟩ := h <;> exact wrongType_ne_ok _ _ _

theorem Stray.readMembers_ne_ok {fuel : Nat} {isFirst : Bool} (h : Stray s) :
    readMembers fuel isFirst m s ≠ .ok (m', left) := by
  cases fuel with
  | zero => simp [readMembers]
  | succ fuel =>
    unfold readMembers
    rw [h.skipBlanks_eq]
    obtain ⟨b, t, rfl, rfl | rfl⟩ := h <;> simp

end Stray

variable {e : Entry} {field : Field} {value q rest raw left : Bytes} {m m' : Members}

theorem Resumes.stray_of_readChars (h : Resumes rest) (hread : readChars rest = .ok (raw, left)) : Stray left := by
  have hbrace : ∀ s : Bytes, readChars (123 :: s) = (readChars s).prepend [123] :=
    fun s => readChars_plain (by decide) (by decide) (by decide) s
  induction h generalizing raw with
  | key h =>
    rw [hbrace] at hread
    obtain ⟨tail, htail, -⟩ := prepend_eq_ok.mp hread
    cases (readChars_quote _).symm.trans htail
    exact h
  | brace _ ih =>
    rw [hbrace] at hread
    obtain ⟨tail, htail, -⟩ := prepend_eq_ok.mp hread
    exact ih htail

theorem escapeByte_cases (b : UInt8) : escapeByte b = [b] ∨ (∃ x, escapeByte b = [backslash, x]) ∨
    ∃ x y, escapeByte b = [backslash, 117, 48, 48, x, y] := by
  unfold escapeByte
  repeat' split
  all_goals simp [backslash]

theorem hexValue?_of_hex4? {w x y z : UInt8} {n : Nat} (h : hex4? w x y z = some n) :
    ∀ b ∈ [w, x, y, z], Bytes.hexValue? b ≠ none := by
  unfold hex4? at h
  simp only [Option.bind_eq_bind, Option.bind_eq_some_iff] at h
  obtain ⟨w', hw, x', hx, y', hy, z', hz, -⟩ := h
  simp [hw, hx, hy, hz]

theorem readChars_unicode_ne_ok {w : Bytes} (h : ∃ b ∈ w.take 4, Bytes.hexValue? b = none) :
    readChars (backslash :: 117 :: w) ≠ .ok (raw, left) := by
  obtain ⟨b, hb, hnone⟩ := h
  rw [readChars.eq_def]
  rcases w with _ | ⟨w, _ | ⟨x, _ | ⟨y, _ | ⟨z, s⟩⟩⟩⟩
  iterate 4 · simp [backslash, quote]
  · have hhex : hex4? w x y z = none := by
      cases hn : hex4? w x y z with
      | none => rfl
      | some n => exact absurd hnone (hexValue?_of_hex4? hn b hb)
    simp [backslash, quote, hhex]

theorem readChars_escapeByte_cut {b : UInt8} {t : Bytes} (hq : q <+: escapeByte b) (hall : q ≠ escapeByte b)
    (hnil : q ≠ []) : readChars (q ++ 123 :: t) ≠ .ok (raw, left) := by
  have hbrace : Bytes.hexValue? 123 = none := by decide
  have hsimple : readChars (backslash :: 123 :: t) ≠ .ok (raw, left) := by
    rw [readChars.eq_def]
    simp [backslash, quote, simpleEscape?]
  rcases escapeByte_cases b with hb | ⟨x, hb⟩ | ⟨x, y, hb⟩ <;> rw [hb] at hq hall
  · obtain rfl | ⟨q', rfl, hq', hall'⟩ := cut_cons hq hall
    · exact absurd rfl hnil
    · exact absurd (List.prefix_nil.mp hq') hall'
  · obtain rfl | ⟨q', rfl, hq', hall'⟩ := cut_cons hq hall
    · exact absurd rfl hnil
    obtain rfl | ⟨q'', rfl, hq'', hall''⟩ := cut_cons hq' hall'
    · exact hsimple
    · exact absurd (List.prefix_nil.mp hq'') hall''
  · obtain rfl | ⟨q₁, rfl, hq₁, hall₁⟩ := cut_cons hq hall
    · exact absurd rfl hnil
    obtain rfl | ⟨q₂, rfl, hq₂, hall₂⟩ := cut_cons hq₁ hall₁
    · exact hsimple
    refine readChars_unicode_ne_ok ⟨123, ?_, hbrace⟩
    have hlen : q₂.length < 4 := lt_of_le_of_ne hq₂.length_le fun heq => hall₂ (hq₂.eq_of_length heq)
    exact List.mem_take_iff_getElem.mpr ⟨q₂.length, by simp; omega, by simp⟩

/-- A string that was cut off goes on to the quote of the next key. -/
theorem stray_of_readChars_cut {bs : Bytes} (hq : q <+: bs.flatMap escapeByte) (h : Resumes rest)
    (hread : readChars (q ++ rest) = .ok (raw, left)) : Stray left := by
  induction bs generalizing q raw with
  | nil =>
    rw [List.prefix_nil.mp hq] at hread
    exact h.stray_of_readChars hread
  | cons b bs ih =>
    rw [List.flatMap_cons] at hq
    rcases cut_append hq with ⟨hcut, hall⟩ | ⟨q', rfl, hq'⟩
    · by_cases hnil : q = []
      · rw [hnil] at hread
        exact h.stray_of_readChars hread
      · obtain ⟨t, rfl⟩ := h.exists_cons
        exact absurd hread (readChars_escapeByte_cut hcut hall hnil)
    · rw [List.append_assoc, readChars_escapeByte] at hread
      obtain ⟨tail, htail, -⟩ := prepend_eq_ok.mp hread
      exact ih hq' htail

theorem stray_of_readText_cut {text text' : String} (hq : q <+: (Bytes.ofText text).flatMap escapeByte) (h : Resumes rest)
    (hread : readText (q ++ rest) = .ok (text', left)) : Stray left :=
  stray_of_readChars_cut hq h (readText_eq_ok.mp hread)

theorem stray_of_readTextValue_cut {text text' : String} (hq : q <+: encodeText text) (hall : q ≠ encodeText text)
    (h : Resumes rest) (hread : readTextValue (q ++ rest) = .ok (text', left)) : Stray left := by
  obtain rfl | ⟨q', rfl, hq', hall'⟩ := cut_cons hq hall
  · exact absurd hread h.stray.readTextValue_ne_ok
  · rw [List.cons_append, readTextValue, skipBlanks_cons (by decide)] at hread
    rcases cut_append hq' with ⟨hcut, -⟩ | ⟨q'', rfl, hq''⟩
    · exact stray_of_readText_cut hcut h hread
    · obtain rfl | ⟨r, rfl, hr, hr'⟩ := cut_cons hq'' fun heq => hall' (heq ▸ rfl)
      · rw [List.append_nil] at hread
        exact stray_of_readText_cut (List.prefix_refl _) h hread
      · exact absurd (List.prefix_nil.mp hr) hr'

theorem stray_of_readOptionalText_cut {text : String} {text' : Option String} (hq : q <+: encodeText text)
    (hall : q ≠ encodeText text) (h : Resumes rest) (hread : readOptionalText (q ++ rest) = .ok (text', left)) :
    Stray left := by
  obtain rfl | ⟨q', rfl, -, -⟩ := cut_cons hq hall
  · exact absurd hread h.stray.readOptionalText_ne_ok
  · have hquote : skipBlanks (34 :: q' ++ rest) = 34 :: (q' ++ rest) := skipBlanks_cons (by decide) _
    rw [readOptionalText_eq hquote (by decide)] at hread
    obtain ⟨⟨v, r⟩, hv, heq⟩ := map_eq_ok.mp hread
    cases heq
    exact stray_of_readTextValue_cut hq hall h hv

theorem word_cut_ne_ok {w t : Bytes} (hw : 123 ∉ w) (hq : q <+: w) (hall : q ≠ w) : word w (q ++ 123 :: t) ≠ .ok left := by
  induction w generalizing q with
  | nil => exact absurd (List.prefix_nil.mp hq) hall
  | cons x w ih =>
    rw [List.mem_cons, not_or] at hw
    obtain rfl | ⟨q', rfl, hq', hall'⟩ := cut_cons hq hall
    · simp [word, hw.1]
    · simpa [word] using ih hw.2 hq' hall'

theorem readBoolean_cut_ne_ok {v v' : Bool} (hq : q <+: encodeBool v) (hall : q ≠ encodeBool v) (h : Resumes rest) :
    readBoolean (q ++ rest) ≠ .ok (v', left) := by
  intro hread
  obtain ⟨t, ht⟩ := h.exists_cons
  cases v with
  | true =>
    obtain rfl | ⟨q', rfl, hq', hall'⟩ := cut_cons (a := trueTail) hq hall
    · exact h.stray.readBoolean_ne_ok hread
    · rw [List.cons_append, readBoolean, skipBlanks_cons (by decide)] at hread
      obtain ⟨r, hr, -⟩ := map_eq_ok.mp hread
      exact word_cut_ne_ok (by decide) hq' hall' (ht ▸ hr)
  | false =>
    obtain rfl | ⟨q', rfl, hq', hall'⟩ := cut_cons (a := falseTail) hq hall
    · exact h.stray.readBoolean_ne_ok hread
    · rw [List.cons_append, readBoolean, skipBlanks_cons (by decide)] at hread
      obtain ⟨r, hr, -⟩ := map_eq_ok.mp hread
      exact word_cut_ne_ok (by decide) hq' hall' (ht ▸ hr)

theorem stray_of_read_cut (hvalue : value? e field = some value) (hq : q <+: value) (hall : q ≠ value) (h : Resumes rest)
    (hread : m.read field (q ++ rest) = .ok (m', left)) : Stray left := by
  cases field <;> (obtain ⟨⟨v, r⟩, hv, heq⟩ := map_eq_ok.mp hread; cases heq)
  case id | target =>
    cases hvalue
    exact stray_of_readTextValue_cut hq hall h hv
  case owner | correlation =>
    obtain ⟨text, -, rfl⟩ := Option.map_eq_some_iff.mp hvalue
    exact stray_of_readOptionalText_cut hq hall h hv
  case deleted =>
    cases hvalue
    exact absurd hv (readBoolean_cut_ne_ok hq hall h)

theorem stray_of_readMember_cut (hvalue : value? e field = some value)
    (hq : q <+: (Bytes.ofText field.name).flatMap escapeByte ++ quote :: 58 :: value)
    (hall : q ≠ (Bytes.ofText field.name).flatMap escapeByte ++ quote :: 58 :: value) (h : Resumes rest)
    (hread : readMember m (q ++ rest) = .ok (m', left)) : Stray left := by
  obtain ⟨key, u, v, htext, hcolon, hmember⟩ := readMember_eq_ok.mp hread
  have hkey : Stray u → Stray left := fun hu => absurd hcolon hu.skipColon_ne_ok
  rcases cut_append hq with ⟨hcut, -⟩ | ⟨q₁, rfl, hq₁⟩
  · exact hkey (stray_of_readText_cut hcut h htext)
  obtain rfl | ⟨q₂, rfl, hq₂, hall₂⟩ := cut_cons hq₁ fun heq => hall (heq ▸ rfl)
  · rw [List.append_nil] at htext
    exact hkey (stray_of_readText_cut (List.prefix_refl _) h htext)
  rw [List.append_assoc, List.cons_append, readText_escape] at htext
  cases htext
  obtain rfl | ⟨q₃, rfl, hq₃, hall₃⟩ := cut_cons hq₂ hall₂
  · exact hkey h.stray
  have hskip : skipColon (58 :: q₃ ++ rest) = .ok (q₃ ++ rest) := by
    rw [List.cons_append, skipColon, skipBlanks_cons (by decide)]
    rfl
  cases hskip.symm.trans hcolon
  rw [ofName?_name] at hmember
  exact stray_of_read_cut hvalue hq₃ hall₃ h hmember.2

theorem cut_encodeMember (hq : q <+: encodeMember field value) (hall : q ≠ encodeMember field value) :
    q = [] ∨ ∃ q', q = 34 :: q' ∧ q' <+: (Bytes.ofText field.name).flatMap escapeByte ++ quote :: 58 :: value ∧
      q' ≠ (Bytes.ofText field.name).flatMap escapeByte ++ quote :: 58 :: value := by
  have hencode : encodeMember field value =
      34 :: ((Bytes.ofText field.name).flatMap escapeByte ++ quote :: 58 :: value) := encodeText_append _ _
  rw [hencode] at hq hall
  exact cut_cons hq hall

theorem readMembers_first_cut_ne_ok {fuel : Nat} (hvalue : value? e field = some value)
    (hq : q <+: encodeMember field value) (hall : q ≠ encodeMember field value) (h : Resumes rest) :
    readMembers fuel true m (q ++ rest) ≠ .ok (m', left) := by
  intro hread
  obtain rfl | ⟨q', rfl, hq', hall'⟩ := cut_encodeMember hq hall
  · exact h.stray.readMembers_ne_ok hread
  cases fuel with
  | zero => simp [readMembers] at hread
  | succ fuel =>
    have hblanks : skipBlanks (34 :: q' ++ rest) = 34 :: (q' ++ rest) := skipBlanks_cons (by decide) _
    rcases readMembers_cases hread with ⟨-, hclose, u, rfl⟩ | ⟨u, m₁, v, hstart, hmember, hrest⟩
    · cases hblanks.symm.trans hclose
    · have hu : skipBlanks (34 :: q' ++ rest) = 34 :: u := hstart
      cases hblanks.symm.trans hu
      exact (stray_of_readMember_cut hvalue hq' hall' h hmember).readMembers_ne_ok hrest

theorem readMembers_later_cut_ne_ok {fuel : Nat} (hvalue : value? e field = some value)
    (hq : q <+: 44 :: encodeMember field value) (hall : q ≠ 44 :: encodeMember field value) (h : Resumes rest) :
    readMembers fuel false m (q ++ rest) ≠ .ok (m', left) := by
  intro hread
  obtain rfl | ⟨q', rfl, hq', hall'⟩ := cut_cons hq hall
  · exact h.stray.readMembers_ne_ok hread
  cases fuel with
  | zero => simp [readMembers] at hread
  | succ fuel =>
    have hblanks : skipBlanks (44 :: q' ++ rest) = 44 :: (q' ++ rest) := skipBlanks_cons (by decide) _
    rcases readMembers_cases hread with ⟨-, hclose, u, rfl⟩ | ⟨u, m₁, v, ⟨t, ht, hu⟩, hmember, hrest⟩
    · cases hblanks.symm.trans hclose
    · cases hblanks.symm.trans ht
      obtain rfl | ⟨q'', rfl, hq'', hall''⟩ := cut_encodeMember hq' hall'
      · obtain ⟨t, rfl⟩ := h.exists_cons
        rw [List.nil_append, skipBlanks_cons (by decide)] at hu
        cases hu
      · rw [List.cons_append, skipBlanks_cons (by decide)] at hu
        cases hu
        exact (stray_of_readMember_cut hvalue hq'' hall'' h hmember).readMembers_ne_ok hrest

theorem readMembers_cut_ne_ok {written : List (Field × Bytes)} {fuel : Nat}
    (hvalue : ∀ w ∈ written, value? e w.1 = some w.2) (hnodup : (written.map Prod.fst).Nodup)
    (hm : ∀ w ∈ written, m.has w.1 = false) (hq : q <+: written.flatMap (fun w => 44 :: encodeMember w.1 w.2))
    (h : Resumes rest) : readMembers fuel false m (q ++ rest) ≠ .ok (m', left) := by
  induction written generalizing m fuel q with
  | nil =>
    rw [List.prefix_nil.mp hq]
    exact h.stray.readMembers_ne_ok
  | cons w written ih =>
    obtain ⟨hw, hwritten⟩ := List.forall_mem_cons.mp hvalue
    obtain ⟨hfirst, hlater⟩ := List.forall_mem_cons.mp hm
    rcases cut_append hq with ⟨hcut, hall⟩ | ⟨q', rfl, hq'⟩
    · exact readMembers_later_cut_ne_ok hw hcut hall h
    · cases fuel with
      | zero => simp [readMembers]
      | succ fuel =>
        rw [List.append_assoc, readMembers_later hw hfirst]
        exact ih hwritten (List.nodup_cons.mp hnodup).2 (has_record_of_nodup e hnodup hlater) hq'

/-- A record that was begun and goes on with another one is no record, whether it was cut off or only its line was not
ended. -/
theorem readRecord_cut_ne_ok {p : Bytes} {e' : Entry} (hp : p <+: encode e) (hnil : p ≠ []) (h : Resumes rest) :
    readRecord (p ++ rest) ≠ .ok e' := by
  intro hread
  obtain ⟨left, hbody, hleft⟩ := readRecord_eq_ok.mp hread
  by_cases hall : p = encode e
  · rw [hall, readBody_encode] at hbody
    cases hbody
    obtain ⟨t, rfl⟩ := h.exists_cons
    rw [skipBlanks_cons (by decide)] at hleft
    cases hleft
  · rw [encode_eq] at hp hall
    obtain rfl | ⟨q, rfl, hq, hall'⟩ := cut_cons hp hall
    · exact hnil rfl
    rw [List.cons_append, readBody, skipBlanks_cons (by decide)] at hbody
    obtain ⟨⟨m, u⟩, hmembers, -⟩ := bind_eq_ok.mp hbody
    have hid : value? e .id = some (encodeText e.id) := rfl
    rw [List.append_assoc] at hq hall'
    rcases cut_append hq with ⟨hcut, hcut'⟩ | ⟨q', rfl, hq'⟩
    · exact readMembers_first_cut_ne_ok hid hcut hcut' h hmembers
    · -- What is left of the record is cut off before its closing brace.
      have hlater : q' <+: (laterValues e).flatMap (fun w => 44 :: encodeMember w.1 w.2) := by
        rcases cut_append hq' with ⟨hcut, -⟩ | ⟨q'', rfl, hq''⟩
        · exact hcut
        · obtain rfl | ⟨t, rfl, ht, ht'⟩ := cut_cons hq'' fun heq => hall' (heq ▸ rfl)
          · simp only [List.append_nil, List.prefix_rfl]
          · exact absurd (List.prefix_nil.mp ht) ht'
      rw [List.append_assoc, readMembers_first hid rfl] at hmembers
      exact readMembers_cut_ne_ok (fun w hw => value?_of_mem_laterValues hw)
        (List.nodup_cons.mp (nodup_laterValues e)).2 (has_laterValues e) hlater h hmembers

theorem exists_encode_eq (e : Entry) : ∃ t, encode e = 123 :: 34 :: 105 :: t := by
  have hname : encodeText Field.id.name = 34 :: 105 :: [100, 34] := by decide
  rw [encode_eq, encodeMember, hname]
  exact ⟨_, rfl⟩

theorem resumes_encode (e : Entry) (more : Bytes) : Resumes (encode e ++ more) := by
  obtain ⟨t, ht⟩ := exists_encode_eq e
  rw [ht]
  exact .key ⟨105, _, rfl, .inl rfl⟩

theorem Resumes.cut {p : Bytes} (hp : p <+: encode e) (hnil : p ≠ []) (h : Resumes rest) : Resumes (p ++ rest) := by
  obtain ⟨t, ht⟩ := exists_encode_eq e
  rw [ht] at hp
  obtain rfl | ⟨p₁, rfl, hp₁⟩ := List.prefix_cons_iff.mp hp
  · exact absurd rfl hnil
  obtain rfl | ⟨p₂, rfl, hp₂⟩ := List.prefix_cons_iff.mp hp₁
  · exact .brace h
  obtain rfl | ⟨p₃, rfl, -⟩ := List.prefix_cons_iff.mp hp₂
  · exact .key h.stray
  · exact .key ⟨105, _, rfl, .inl rfl⟩

end ShortLinks.Record
