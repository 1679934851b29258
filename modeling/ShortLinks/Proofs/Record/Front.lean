import ShortLinks.Proofs.Record.Front.Element

/-!
# Records and the blanks after them

A record has a closing mark, so that not even the byte after it matters: `readBody_front` says so, and
`decode_append_blanks_iff` draws from it that blanks at the end decide nothing.
-/

set_option autoImplicit false

namespace ShortLinks.Record

theorem readRecord_eq_ok {s : Bytes} {e : Entry} :
    readRecord s = .ok e ↔ ∃ rest, readBody s = .ok (e, rest) ∧ skipBlanks rest = [] := by
  refine bind_eq_ok.trans ⟨?_, ?_⟩
  · rintro ⟨⟨entry, rest⟩, hr, h⟩
    simp only at h
    split at h
    · next hnil =>
      cases h
      exact ⟨rest, hr, hnil⟩
    · cases h
  · rintro ⟨rest, hr, hnil⟩
    exact ⟨(e, rest), hr, by simp only [hnil]; rfl⟩

/-- A record ends with its closing mark, and what comes after that is not looked at. -/
theorem readBody_front {s rest : Bytes} {e : Entry} (h : readBody s = .ok (e, rest)) :
    ∃ front close, s = front ++ close :: rest ∧ Bytes.isRecordBlank close = false ∧
      ∀ other, readBody (front ++ close :: other) = .ok (e, other) := by
  have hblanks := skipBlanks_front s
  unfold readBody at h
  split at h
  · cases h
  · next u hu =>
    obtain ⟨front, hs, hfront⟩ := readObject_front h
    rw [hu, hs] at hblanks
    obtain ⟨blanks, hblank, hother⟩ := hblanks
    refine ⟨blanks ++ 123 :: front, 125, by simp [hblank], by decide, fun other => ?_⟩
    have hskip := hother (123 :: (front ++ 125 :: other)) rfl
    unfold readBody
    simp only [List.append_assoc, List.cons_append, hskip, hfront other]
  · next u hu =>
    obtain ⟨front, hs, hfront⟩ := readArray_front h
    rw [hu, hs] at hblanks
    obtain ⟨blanks, hblank, hother⟩ := hblanks
    refine ⟨blanks ++ 91 :: front, 93, by simp [hblank], by decide, fun other => ?_⟩
    have hskip := hother (91 :: (front ++ 93 :: other)) rfl
    unfold readBody
    simp only [List.append_assoc, List.cons_append, hskip, hfront other]
  · exact absurd h (wrongType_ne_ok _ _ _)

theorem decode_eq_ok {s : Bytes} {e : Entry} : decode s = .ok e ↔ readRecord s = .ok e := by
  unfold decode
  cases readRecord s <;> simp

theorem skipBlanks_eq_nil_iff {s : Bytes} : skipBlanks s = [] ↔ ∀ b ∈ s, Bytes.isRecordBlank b = true := by
  simp [skipBlanks, List.dropWhile_eq_nil_iff]

theorem decode_append_blanks_iff {s blanks : Bytes} {e : Entry} (hb : skipBlanks blanks = []) :
    decode (s ++ blanks) = .ok e ↔ decode s = .ok e := by
  rw [decode_eq_ok, decode_eq_ok, readRecord_eq_ok, readRecord_eq_ok]
  have hblank : ∀ rest : Bytes, skipBlanks (rest ++ blanks) = [] ↔ skipBlanks rest = [] := by
    intro rest
    rw [skipBlanks_eq_nil_iff] at hb
    rw [skipBlanks_eq_nil_iff, skipBlanks_eq_nil_iff, List.forall_mem_append]
    exact and_iff_left hb
  constructor
  · rintro ⟨rest, hbody, hrest⟩
    obtain ⟨front, close, hs, hclose, hread⟩ := readBody_front hbody
    have hclosing : close ∉ blanks := by
      intro hmem
      have hblankClose := skipBlanks_eq_nil_iff.mp hb close hmem
      rw [hclose] at hblankClose
      cases hblankClose
    -- The closing mark is no blank, so it stands in `s` and the blanks are at the end of what follows it.
    rcases List.append_eq_append_iff.mp hs with ⟨u, rfl, hu⟩ | ⟨u, rfl, hu⟩
    · rw [hu] at hclosing
      simp at hclosing
    · cases u with
      | nil =>
        rw [List.nil_append] at hu
        rw [← hu] at hclosing
        simp at hclosing
      | cons b u =>
        cases hu
        exact ⟨u, hread u, (hblank u).mp hrest⟩
  · rintro ⟨rest, hbody, hrest⟩
    obtain ⟨front, close, rfl, -, hread⟩ := readBody_front hbody
    refine ⟨rest ++ blanks, ?_, (hblank rest).mpr hrest⟩
    rw [List.append_assoc, List.cons_append]
    exact hread (rest ++ blanks)

end ShortLinks.Record
