import ShortLinks.Proofs.Log.Lines

/-!
# Records as a code

A record can be told from all that could be mistaken for it. It reads back as its entry and stays on one line, and it
ends where its closing brace is: cut anywhere before that, be it within a character, it is no record of anything.
-/

set_option autoImplicit false

namespace ShortLinks.Record

variable {e e' : Entry} {before after front more : Bytes}

theorem readBody_blanks_append (hbefore : skipBlanks before = []) (s : Bytes) : readBody (before ++ s) = readBody s := by
  have hskip : skipBlanks (before ++ s) = skipBlanks s := by
    unfold skipBlanks at hbefore ⊢
    rw [List.dropWhile_append, hbefore]
    rfl
  unfold readBody
  rw [hskip]

theorem decode_blanks_encode_blanks (hbefore : skipBlanks before = []) (hafter : skipBlanks after = []) (e : Entry) :
    decode (before ++ (encode e ++ after)) = .ok e := by
  refine decode_eq_ok.mpr (readRecord_eq_ok.mpr ⟨after, ?_, hafter⟩)
  rw [readBody_blanks_append hbefore]
  exact readBody_encode e after

/-- If the front of a record were one, the record would go on after its end. -/
theorem readBody_front_ne_ok (hencode : encode e = front ++ more) (hmore : more ≠ []) (rest : Bytes) :
    readBody front ≠ .ok (e', rest) := by
  intro hfront
  obtain ⟨start, close, hstart, -, hread⟩ := readBody_front hfront
  have hwhole : readBody (encode e) = .ok (e', rest ++ more) := by
    rw [hencode, hstart, List.append_assoc, List.cons_append]
    exact hread (rest ++ more)
  have hend := readBody_encode e []
  rw [List.append_nil, hwhole] at hend
  obtain ⟨-, hnothing⟩ := Prod.mk.inj (Except.ok.inj hend)
  exact hmore (List.append_eq_nil_iff.mp hnothing).2

theorem decode_cut (hfront : front <+: encode e) (hcut : front ≠ encode e) (hbefore : skipBlanks before = [])
    (hafter : skipBlanks after = []) : ∃ cause, decode (before ++ (front ++ after)) = .error cause := by
  cases hdecode : decode (before ++ (front ++ after)) with
  | error cause => exact ⟨cause, rfl⟩
  | ok e' =>
    rw [← List.append_assoc, decode_append_blanks_iff hafter] at hdecode
    obtain ⟨rest, hbody, -⟩ := readRecord_eq_ok.mp (decode_eq_ok.mp hdecode)
    rw [readBody_blanks_append hbefore] at hbody
    obtain ⟨more, hmore⟩ := hfront
    refine absurd hbody (readBody_front_ne_ok hmore.symm (fun hnil => hcut ?_) rest)
    rw [← hmore, hnil, List.append_nil]

/-- What is known of the record of an entry. -/
structure Codes (record : Bytes) (e : Entry) : Prop where
  /-- It says that entry and no other, with blanks around it or without. -/
  read_back : ∀ before after, skipBlanks before = [] → skipBlanks after = [] →
    decode (before ++ (record ++ after)) = .ok e
  printable : ∀ b ∈ record, 32 ≤ b
  one_line : Bytes.lines (record ++ [10]) = [record ++ [10]] ∧ Log.readLine (record ++ [10]) = .record e
  /-- Cut off anywhere it is no record, with blanks around it or without. -/
  rejected : ∀ front, front <+: record → front ≠ record → ∀ before after, skipBlanks before = [] →
    skipBlanks after = [] → ∃ cause, decode (before ++ (front ++ after)) = .error cause

theorem encode_codes (e : Entry) : Codes (encode e) e where
  read_back _ _ hbefore hafter := decode_blanks_encode_blanks hbefore hafter e
  printable _ hb := le_of_mem_encode hb
  one_line := ⟨Bytes.lines_line_append (Log.newline_not_mem_encode e) [], Log.readLine_recordLine e⟩
  rejected _ hfront hcut _ _ hbefore hafter := decode_cut hfront hcut hbefore hafter

theorem encode_prefix_iff : encode e <+: encode e' ↔ e = e' := by
  have hblank : skipBlanks [] = [] := rfl
  constructor
  · intro hprefix
    by_cases heq : encode e = encode e'
    · have hread := decode_blanks_encode_blanks hblank hblank e
      rw [heq, decode_blanks_encode_blanks hblank hblank] at hread
      exact (Except.ok.inj hread).symm
    · obtain ⟨cause, hcause⟩ := decode_cut hprefix heq hblank hblank
      rw [decode_blanks_encode_blanks hblank hblank] at hcause
      cases hcause
  · rintro rfl
    exact List.prefix_rfl

end ShortLinks.Record
