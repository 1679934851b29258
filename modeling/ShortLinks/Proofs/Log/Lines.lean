import ShortLinks.Proofs.Record.Front
import ShortLinks.Proofs.Record.RoundTrip
import ShortLinks.Store.Log

/-!
# The lines of a log

A text that ends in a line feed can be added to line by line. A record line reads back as its record, and what is
kept of a malformed line is malformed again when it is written as a line of its own.
-/

set_option autoImplicit false

namespace ShortLinks

namespace Bytes

variable {line rest content more : Bytes}

theorem lines_line_append (h : 10 ∉ line) (rest : Bytes) :
    lines (line ++ 10 :: rest) = (line ++ [10]) :: lines rest := by
  induction line with
  | nil => simp [lines]
  | cons b line ih =>
    rw [List.mem_cons, not_or] at h
    show lines (b :: (line ++ 10 :: rest)) = _
    rw [lines, if_neg (Ne.symm h.1), ih h.2]
    rfl

theorem lines_of_not_mem (h : 10 ∉ line) (hnil : line ≠ []) : lines line = [line] := by
  induction line with
  | nil => exact absurd rfl hnil
  | cons b line ih =>
    rw [List.mem_cons, not_or] at h
    rw [lines, if_neg (Ne.symm h.1)]
    cases line with
    | nil => rfl
    | cons a line => rw [ih h.2 (List.cons_ne_nil a line)]

theorem exists_of_mem_lines (h : line ∈ lines content) : ∃ text, 10 ∉ text ∧ (line = text ++ [10] ∨ line = text) := by
  induction content generalizing line with
  | nil => cases h
  | cons b content ih =>
    rw [lines] at h
    split at h
    · next hb =>
      rcases List.mem_cons.mp h with rfl | h
      · exact ⟨[], List.not_mem_nil, .inl (by rw [hb]; rfl)⟩
      · exact ih h
    · next hb =>
      split at h
      · rw [List.mem_singleton] at h
        exact ⟨[b], by simpa using Ne.symm hb, .inr h⟩
      · next first others hlines =>
        rcases List.mem_cons.mp h with rfl | h
        · obtain ⟨text, htext, hfirst⟩ := ih (hlines ▸ List.mem_cons_self)
          refine ⟨b :: text, by simpa using ⟨Ne.symm hb, htext⟩, ?_⟩
          rcases hfirst with rfl | rfl
          · exact .inl rfl
          · exact .inr rfl
        · exact ih (hlines ▸ List.mem_cons_of_mem _ h)

def Terminated (content : Bytes) : Prop :=
  ∃ texts : List Bytes, (∀ text ∈ texts, 10 ∉ text) ∧ content = texts.flatMap (· ++ [10])

theorem Terminated.nil : Terminated [] := ⟨[], by simp, rfl⟩

theorem Terminated.append (h : Terminated content) (hmore : Terminated more) : Terminated (content ++ more) := by
  obtain ⟨texts, htexts, rfl⟩ := h
  obtain ⟨texts', htexts', rfl⟩ := hmore
  refine ⟨texts ++ texts', ?_, by rw [List.flatMap_append]⟩
  intro text hmem
  exact (List.mem_append.mp hmem).elim (htexts text) (htexts' text)

theorem terminated_concat (content : Bytes) : Terminated (content ++ [10]) := by
  induction content with
  | nil => exact ⟨[[]], by simp, rfl⟩
  | cons b content ih =>
    obtain ⟨texts, htexts, hcontent⟩ := ih
    cases texts with
    | nil => simp at hcontent
    | cons text texts =>
      obtain ⟨htext, hrest⟩ := List.forall_mem_cons.mp htexts
      by_cases hb : b = 10
      · refine ⟨[] :: text :: texts, by simpa using ⟨htext, hrest⟩, ?_⟩
        rw [List.cons_append, hcontent, hb]
        rfl
      · refine ⟨(b :: text) :: texts, by simpa using ⟨⟨Ne.symm hb, htext⟩, hrest⟩, ?_⟩
        rw [List.cons_append, hcontent]
        rfl

theorem terminated_of_getLast? (h : content = [] ∨ content.getLast? = some 10) : Terminated content := by
  rcases h with rfl | hlast
  · exact .nil
  · obtain ⟨front, rfl⟩ := List.getLast?_eq_some_iff.mp hlast
    exact terminated_concat front

theorem lines_texts_append (texts : List Bytes) (h : ∀ text ∈ texts, 10 ∉ text) (more : Bytes) :
    lines (texts.flatMap (· ++ [10]) ++ more) = texts.map (· ++ [10]) ++ lines more := by
  induction texts with
  | nil => rfl
  | cons text texts ih =>
    have hrest := ih fun t ht => h t (List.mem_cons_of_mem _ ht)
    rw [List.flatMap_cons, List.append_assoc, List.append_assoc, List.singleton_append,
      lines_line_append (h text List.mem_cons_self), hrest]
    rfl

theorem lines_texts (texts : List Bytes) (h : ∀ text ∈ texts, 10 ∉ text) :
    lines (texts.flatMap (· ++ [10])) = texts.map (· ++ [10]) := by
  have hlines := lines_texts_append texts h []
  rw [List.append_nil] at hlines
  rw [hlines]
  exact List.append_nil _

theorem Terminated.lines_append (h : Terminated content) (more : Bytes) :
    lines (content ++ more) = lines content ++ lines more := by
  obtain ⟨texts, htexts, rfl⟩ := h
  rw [lines_texts_append texts htexts, lines_texts texts htexts]

end Bytes

namespace Log

variable {line text content : Bytes} {e : Entry} {log : Log}

theorem newline_not_mem_encode (e : Entry) : 10 ∉ Record.encode e := by
  intro hmem
  have hle := Record.le_of_mem_encode hmem
  exact absurd hle (by decide)

theorem recordLines_eq (entries : List Entry) : recordLines entries = (entries.map Record.encode).flatMap (· ++ [10]) := by
  rw [List.flatMap_map]
  rfl

theorem recordLines_singleton (e : Entry) : recordLines [e] = recordLine e := List.flatMap_singleton recordLine e

theorem newline_not_mem_encodes (entries : List Entry) : ∀ text ∈ entries.map Record.encode, 10 ∉ text := by
  intro text hmem
  obtain ⟨e, -, rfl⟩ := List.mem_map.mp hmem
  exact newline_not_mem_encode e

theorem recordLines_terminated (entries : List Entry) : Bytes.Terminated (recordLines entries) :=
  ⟨_, newline_not_mem_encodes entries, recordLines_eq entries⟩

theorem lines_recordLines (entries : List Entry) : Bytes.lines (recordLines entries) = entries.map recordLine := by
  rw [recordLines_eq, Bytes.lines_texts _ (newline_not_mem_encodes entries), List.map_map]
  rfl

theorem readLine_encode_append {blanks : Bytes} (h : Record.skipBlanks blanks = []) (e : Entry) :
    readLine (Record.encode e ++ blanks) = .record e := by
  unfold readLine
  rw [if_neg, Record.decode_encode_append h]
  intro hblank
  rw [List.all_eq_true] at hblank
  have hopen : Bytes.isAsciiBlank 123 = true := hblank 123 (by simp [Record.encode])
  exact absurd hopen (by decide)

theorem readLine_recordLine (e : Entry) : readLine (recordLine e) = .record e := readLine_encode_append rfl e

theorem dropLineEnd_append (line : Bytes) : ∃ ending, line = dropLineEnd line ++ ending ∧ ∀ b ∈ ending, b = 10 ∨ b = 13 := by
  have hdrop : ∀ (b : UInt8) (s : Bytes), ∃ front, s = front ++ (if s.head? = some b then s.tail else s) ∧
      ∀ a ∈ front, a = b := by
    intro b s
    split
    · next hhead =>
      obtain ⟨rest, rfl⟩ := List.head?_eq_some_iff.mp hhead
      exact ⟨[b], rfl, by simp⟩
    · exact ⟨[], rfl, by simp⟩
  obtain ⟨feed, hfeed, hten⟩ := hdrop 10 line.reverse
  obtain ⟨back, hback, hthirteen⟩ := hdrop 13 (if line.reverse.head? = some 10 then line.reverse.tail else line.reverse)
  refine ⟨back.reverse ++ feed.reverse, ?_, ?_⟩
  · unfold dropLineEnd
    rw [← List.append_assoc, ← List.reverse_append, ← List.reverse_append]
    dsimp only
    rw [← hback, ← hfeed, List.reverse_reverse]
  · intro b hb
    rcases List.mem_append.mp hb with hb | hb
    · exact .inr (hthirteen b (List.mem_reverse.mp hb))
    · exact .inl (hten b (List.mem_reverse.mp hb))

def Malformed (line : Bytes) : Prop := ∃ text cause, readLine line = .malformed text cause

theorem malformed_iff : Malformed line ↔
    (∃ b ∈ line, Bytes.isAsciiBlank b = false) ∧ ∀ e, Record.decode line ≠ .ok e := by
  unfold Malformed readLine
  by_cases hblank : line.all Bytes.isAsciiBlank = true
  · rw [if_pos hblank]
    constructor
    · rintro ⟨text, cause, h⟩
      cases h
    · rintro ⟨⟨b, hb, hnot⟩, -⟩
      rw [List.all_eq_true.mp hblank b hb] at hnot
      cases hnot
  · rw [if_neg hblank]
    have hsome : ∃ b ∈ line, Bytes.isAsciiBlank b = false := by simpa using hblank
    cases hdecode : Record.decode line with
    | ok e => simp
    | error cause => simpa using hsome

theorem readLine_malformed (h : Malformed line) : ∃ cause, readLine line = .malformed (dropLineEnd line) cause := by
  obtain ⟨text, cause, h⟩ := h
  unfold readLine at h ⊢
  split at h
  · cases h
  · next hblank =>
    rw [if_neg hblank]
    split at h
    · cases h
    · next cause' hdecode => exact ⟨cause', rfl⟩

theorem Malformed.congr_ending {ending ending' : Bytes} (hending : ∀ b ∈ ending, b = 10 ∨ b = 13)
    (hending' : ∀ b ∈ ending', b = 10 ∨ b = 13) (h : Malformed (text ++ ending)) : Malformed (text ++ ending') := by
  have hskip : ∀ s : Bytes, (∀ b ∈ s, b = 10 ∨ b = 13) → Record.skipBlanks s = [] := by
    intro s hs
    rw [Record.skipBlanks_eq_nil_iff]
    intro b hb
    rcases hs b hb with rfl | rfl <;> decide
  rw [malformed_iff] at h ⊢
  obtain ⟨⟨b, hb, hnot⟩, hdecode⟩ := h
  refine ⟨⟨b, ?_, hnot⟩, fun e he => hdecode e ?_⟩
  · rcases List.mem_append.mp hb with hb | hb
    · exact List.mem_append_left _ hb
    · rcases hending b hb with rfl | rfl <;> cases hnot
  · rw [Record.decode_append_blanks_iff (hskip _ hending)]
    exact (Record.decode_append_blanks_iff (hskip _ hending')).mp he

/-- What is kept of a malformed line is malformed when it is a line of its own. -/
theorem Malformed.kept (h : Malformed line) : Malformed (dropLineEnd line ++ [10]) := by
  obtain ⟨ending, hline, hending⟩ := dropLineEnd_append line
  rw [hline] at h
  exact h.congr_ending hending (by simp)

theorem newline_not_mem_dropLineEnd (h : line ∈ Bytes.lines content) : 10 ∉ dropLineEnd line := by
  obtain ⟨text, htext, rfl | rfl⟩ := Bytes.exists_of_mem_lines h
  · have hdrop : dropLineEnd (text ++ [10]) = (if text.reverse.head? = some 13 then text.reverse.tail else text.reverse).reverse := by
      simp [dropLineEnd]
    rw [hdrop, List.mem_reverse]
    split
    · exact fun hmem => htext (List.mem_reverse.mp (List.mem_of_mem_tail hmem))
    · exact fun hmem => htext (List.mem_reverse.mp hmem)
  · obtain ⟨ending, hline, -⟩ := dropLineEnd_append line
    intro hmem
    exact htext (hline ▸ List.mem_append_left _ hmem)

end Log
end ShortLinks
