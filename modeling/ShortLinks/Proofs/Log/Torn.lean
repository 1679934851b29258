import ShortLinks.Proofs.Log.Compaction
import ShortLinks.Proofs.Record.Codec
import ShortLinks.Proofs.Record.Interrupted

/-!
# Logs that end in torn records

A write that was interrupted leaves some whole lines and a front of the next one. Where a line was begun so and then
written on, all of it is one malformed line: neither what was written first nor the record that follows is read.
-/

set_option autoImplicit false

namespace ShortLinks.Log

variable {log : Log} {content ended torn rest p : Bytes} {e x : Entry} {id : String}

/-- Fronts of records, one after the other. -/
inductive Torn : Bytes → Prop where
  | nil : Torn []
  | cons {p rest : Bytes} {e : Entry} (hp : p <+: Record.encode e) (hnil : p ≠ []) (h : Torn rest) : Torn (p ++ rest)

namespace Torn

theorem concat (h : Torn torn) (hp : p <+: Record.encode e) : Torn (torn ++ p) := by
  by_cases hnil : p = []
  · rw [hnil, List.append_nil]
    exact h
  induction h with
  | nil =>
    have hpiece := Torn.cons hp hnil .nil
    rwa [List.append_nil] at hpiece
  | cons hq hqnil _ ih =>
    rw [List.append_assoc]
    exact .cons hq hqnil ih

theorem newline_not_mem (h : Torn torn) : 10 ∉ torn := by
  induction h with
  | nil => exact List.not_mem_nil
  | @cons p rest e hp _ _ ih =>
    rw [List.mem_append, not_or]
    exact ⟨fun hmem => newline_not_mem_encode e (hp.mem hmem), ih⟩

theorem resumes (h : Torn torn) (hrest : Record.Resumes rest) : Record.Resumes (torn ++ rest) := by
  induction h with
  | nil => exact hrest
  | cons hp hnil _ ih =>
    rw [List.append_assoc]
    exact ih.cut hp hnil

theorem malformed (h : Torn torn) (hnil : torn ≠ []) (e : Entry) : Malformed (torn ++ recordLine e) := by
  have hresumes := Record.resumes_encode e [10]
  cases h with
  | nil => exact absurd rfl hnil
  | @cons p rest r hp hpnil h =>
    rw [malformed_iff, List.append_assoc]
    constructor
    · obtain ⟨t, ht⟩ := hresumes.exists_cons
      exact ⟨123, by simp [recordLine, ht], by decide⟩
    · intro x hx
      exact Record.readRecord_cut_ne_ok hp hpnil (h.resumes hresumes) (Record.decode_eq_ok.mp hx)

end Torn

/-- However far a write of records gets, it leaves the lines of the first ones and a front of the next one. -/
theorem take_recordLines (records : List Entry) (n : Nat) : ∃ k piece, k ≤ records.length ∧
    (recordLines records).take n = recordLines (records.take k) ++ piece ∧
      (piece = [] ∨ ∃ e, records[k]? = some e ∧ piece <+: Record.encode e) := by
  induction records generalizing n with
  | nil => exact ⟨0, [], le_rfl, by simp [recordLines], .inl rfl⟩
  | cons r records ih =>
    have hcons : recordLines (r :: records) = Record.encode r ++ 10 :: recordLines records := by
      simp [recordLines, recordLine]
    by_cases hn : n ≤ (Record.encode r).length
    · refine ⟨0, (Record.encode r).take n, Nat.zero_le _, ?_, .inr ⟨r, rfl, List.take_prefix _ _⟩⟩
      rw [hcons, List.take_append_of_le_length hn]
      rfl
    · obtain ⟨m, rfl⟩ : ∃ m, n = (Record.encode r).length + (m + 1) := ⟨n - (Record.encode r).length - 1, by omega⟩
      obtain ⟨k, piece, hk, htake, hpiece⟩ := ih m
      refine ⟨k + 1, piece, Nat.succ_le_succ hk, ?_, hpiece⟩
      rw [hcons, List.take_length_add_append, List.take_succ_cons, htake]
      simp [recordLines, recordLine]

/-- A text of whole lines, and a torn one after them if it is not empty. -/
structure Frayed (content ended torn : Bytes) : Prop where
  eq_append : content = ended ++ torn
  terminated : Bytes.Terminated ended
  torn : Torn torn

theorem Frayed.append_take (h : Frayed content ended torn) (records : List Entry) (n : Nat) :
    ∃ ended' torn', Frayed (content ++ (recordLines records).take n) ended' torn' := by
  obtain ⟨k, piece, -, htake, hpiece⟩ := take_recordLines records n
  have hconcat : ∀ {t : Bytes}, Torn t → Torn (t ++ piece) := by
    intro t ht
    rcases hpiece with rfl | ⟨e, -, hp⟩
    · exact ht.concat (e := default) List.nil_prefix
    · exact ht.concat hp
  rw [htake, h.eq_append]
  cases records.take k with
  | nil => exact ⟨ended, torn ++ piece, by simp [recordLines], h.terminated, hconcat h.torn⟩
  | cons r front =>
    have hfirst : Bytes.Terminated (torn ++ Record.encode r ++ [10]) := by
      refine ⟨[torn ++ Record.encode r], ?_, by simp⟩
      simp [h.torn.newline_not_mem, newline_not_mem_encode]
    refine ⟨ended ++ (torn ++ Record.encode r ++ [10] ++ recordLines front), piece, ?_,
      h.terminated.append (hfirst.append (recordLines_terminated front)), hconcat .nil⟩
    simp [recordLines, recordLine]

theorem recordsOf_append (h : Bytes.Terminated ended) (more : Bytes) :
    recordsOf (ended ++ more) = recordsOf ended ++ recordsOf more := by
  unfold recordsOf
  rw [h.lines_append, List.filterMap_append]

theorem get?_ofBytes (content : Bytes) : (ofBytes content).get? = ((recordsOf content).foldl apply empty).get? := by
  rw [ofBytes_eq]
  rfl

theorem Indexed.get?_foldl_ne_none (h : log.Indexed) (hid : log.get? id ≠ none) (records : List Entry) :
    (records.foldl Log.apply log).get? id ≠ none := by
  induction records generalizing log with
  | nil => exact hid
  | cons r records ih =>
    refine ih (h.apply r) ?_
    by_cases hr : log.get? r.id = none
    · have hother : id ≠ r.id := by
        rintro rfl
        exact hid hr
      rw [h.get?_apply_fresh hr, Contents.store_other hother]
      exact hid
    · rw [h.get?_apply_known hr]
      simpa using hid

/-- A record that is written on a torn line is not read, and neither is what stood there: what is left are the ended
lines. -/
theorem Frayed.get?_append_recordLine (h : Frayed content ended torn) (hnil : torn ≠ []) (e : Entry) :
    (ofBytes (content ++ recordLine e)).get? = (ofBytes ended).get? := by
  have hline : 10 ∉ torn ++ Record.encode e := by
    simp [h.torn.newline_not_mem, newline_not_mem_encode]
  have hlines : Bytes.lines (torn ++ recordLine e) = [torn ++ recordLine e] := by
    have hone := Bytes.lines_line_append hline []
    rwa [List.append_assoc] at hone
  have hrecords : recordsOf (torn ++ recordLine e) = [] := by
    obtain ⟨text, cause, hmalformed⟩ := h.torn.malformed hnil e
    simp [recordsOf, hlines, hmalformed, Line.record?]
  rw [get?_ofBytes, get?_ofBytes, h.eq_append, List.append_assoc, recordsOf_append h.terminated, hrecords, List.append_nil]

theorem ofBytes_append_encode (h : Bytes.Terminated ended) (e : Entry) :
    ofBytes (ended ++ Record.encode e) = (ofBytes ended).apply e := by
  have hlines : Bytes.lines (Record.encode e) = [Record.encode e] := by
    obtain ⟨t, ht⟩ := Record.exists_encode_eq e
    exact Bytes.lines_of_not_mem (newline_not_mem_encode e) (by simp [ht])
  have hread : readLine (Record.encode e ++ []) = .record e := readLine_encode_append rfl e
  rw [List.append_nil] at hread
  unfold ofBytes ofLines
  rw [h.lines_append, hlines, List.map_append, List.foldl_append, List.map_singleton, hread]
  rfl

theorem entries_append_cut {piece : Bytes} (h : Bytes.Terminated ended) (hp : piece <+: Record.encode e)
    (hcut : piece ≠ Record.encode e) : (ofBytes (ended ++ piece)).entries = (ofBytes ended).entries := by
  cases piece with
  | nil => rw [List.append_nil]
  | cons b piece =>
    have hlines : Bytes.lines (b :: piece) = [b :: piece] :=
      Bytes.lines_of_not_mem (fun hmem => newline_not_mem_encode e (hp.mem hmem)) (List.cons_ne_nil b piece)
    have hbrace : b = 123 := by
      obtain ⟨t, ht⟩ := Record.exists_encode_eq e
      rw [ht] at hp
      exact (List.cons_prefix_cons.mp hp).1
    have hmalformed : Malformed (b :: piece) := by
      refine malformed_iff.mpr ⟨⟨b, List.mem_cons_self, by rw [hbrace]; decide⟩, fun x hx => ?_⟩
      have hrejected : ∃ cause, Record.decode ([] ++ (b :: piece ++ [])) = .error cause :=
        Record.decode_cut hp hcut rfl rfl
      rw [List.nil_append, List.append_nil, hx] at hrejected
      obtain ⟨cause, hcause⟩ := hrejected
      cases hcause
    obtain ⟨text, cause, hread⟩ := hmalformed
    unfold ofBytes ofLines
    rw [h.lines_append, hlines, List.map_append, List.foldl_append, List.map_singleton, hread]
    rfl

theorem entries_append_take (h : Bytes.Terminated content) (records : List Entry) (n : Nat) : ∃ k ≤ records.length,
    (ofBytes (content ++ (recordLines records).take n)).entries =
      ((records.take k).foldl apply (ofBytes content)).entries := by
  obtain ⟨k, piece, hk, htake, hpiece⟩ := take_recordLines records n
  have hended := h.append (recordLines_terminated (records.take k))
  rw [htake, ← List.append_assoc]
  rcases hpiece with rfl | ⟨e, he, hp⟩
  · exact ⟨k, hk, by rw [List.append_nil, ofBytes_append_recordLines h]⟩
  · by_cases hall : piece = Record.encode e
    · -- Only the line feed is missing, so that the record counts.
      obtain ⟨hlt, -⟩ := List.getElem?_eq_some_iff.mp he
      refine ⟨k + 1, hlt, ?_⟩
      rw [hall, ofBytes_append_encode hended, ofBytes_append_recordLines h, List.take_add_one, he, List.foldl_append]
      rfl
    · exact ⟨k, hk, by rw [entries_append_cut hended hp hall, ofBytes_append_recordLines h]⟩

theorem Frayed.get?_ended_eq_none (h : Frayed content ended torn) (hid : (ofBytes content).get? id = none) :
    (ofBytes ended).get? id = none := by
  by_contra hne
  rw [get?_ofBytes] at hne
  rw [get?_ofBytes, h.eq_append, recordsOf_append h.terminated, List.foldl_append] at hid
  exact (empty_indexed.applyAll _).get?_foldl_ne_none hne _ hid

end ShortLinks.Log
