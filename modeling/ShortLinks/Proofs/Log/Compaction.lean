import Mathlib.Data.List.Induction
import ShortLinks.Proofs.Log.Index
import ShortLinks.Proofs.Log.Lines

/-!
# Writing a log anew

A text is read as its records, taken in one after the other, and its malformed lines. Writing the log that it gives
and reading that again gives the same entries in the same order, and the same malformed lines without their
carriage returns.
-/

set_option autoImplicit false

namespace ShortLinks.Log

variable {log : Log} {e r : Entry} {content : Bytes}

def Line.record? : Line → Option Entry
  | .record e => some e
  | _ => none

def Line.isMalformed : Line → Bool
  | .malformed .. => true
  | _ => false

def recordsOf (content : Bytes) : List Entry := (Bytes.lines content).filterMap fun line => (readLine line).record?

def malformedLines (content : Bytes) : List Bytes := (Bytes.lines content).filter fun line => (readLine line).isMalformed

theorem isMalformed_iff {line : Bytes} : (readLine line).isMalformed = true ↔ Malformed line := by
  unfold Malformed
  cases readLine line with
  | malformed text cause => simp [Line.isMalformed]
  | _ => simp [Line.isMalformed]

def keeping (log : Log) (unparsed : List Bytes) : Log := { log with unparsed }

theorem apply_keeping (log : Log) (r : Entry) (unparsed : List Bytes) :
    (log.keeping unparsed).apply r = (log.apply r).keeping unparsed := by
  unfold apply
  have hpositions : (log.keeping unparsed).positions = log.positions := rfl
  rw [hpositions]
  cases log.positions[r.id]? with
  | none => rfl
  | some p =>
    by_cases hdel : r.deleted = true
    · simp [hdel, keeping]
    · simp [hdel, keeping]

theorem foldl_apply_keeping (records : List Entry) (log : Log) (unparsed : List Bytes) :
    records.foldl apply (log.keeping unparsed) = (records.foldl apply log).keeping unparsed := by
  induction records generalizing log with
  | nil => rfl
  | cons r records ih => rw [List.foldl_cons, apply_keeping, ih, List.foldl_cons]

theorem apply_unparsed (log : Log) (r : Entry) : (log.apply r).unparsed = log.unparsed := by
  have h := congrArg unparsed (apply_keeping log r log.unparsed)
  exact h

theorem foldl_take (lines : List Bytes) (log : Log) : (lines.map readLine).foldl take log =
    ((lines.filterMap fun line => (readLine line).record?).foldl apply log).keeping
      (log.unparsed ++ (lines.filter fun line => (readLine line).isMalformed).map dropLineEnd) := by
  induction lines generalizing log with
  | nil =>
    show log = log.keeping (log.unparsed ++ [])
    rw [List.append_nil]
    rfl
  | cons line lines ih =>
    rw [List.map_cons, List.foldl_cons, ih]
    cases hline : readLine line with
    | blank => simp [hline, take, Line.record?, Line.isMalformed]
    | record e => simp [hline, take, Line.record?, Line.isMalformed, apply_unparsed]
    | malformed text cause =>
      obtain ⟨cause', hcause⟩ := readLine_malformed ⟨text, cause, hline⟩
      have htext : text = dropLineEnd line := by
        rw [hline] at hcause
        cases hcause
        rfl
      have htake : log.take (.malformed text cause) = log.keeping (log.unparsed ++ [text]) := rfl
      rw [htake, foldl_apply_keeping]
      simp [hline, Line.record?, Line.isMalformed, htext, keeping]

theorem ofBytes_eq (content : Bytes) : ofBytes content =
    ((recordsOf content).foldl apply empty).keeping ((malformedLines content).map dropLineEnd) :=
  foldl_take (Bytes.lines content) empty

theorem unparsed_ofBytes (content : Bytes) : (ofBytes content).unparsed = (malformedLines content).map dropLineEnd := by
  rw [ofBytes_eq]
  rfl

theorem ofBytes_indexed (content : Bytes) : (ofBytes content).Indexed := by
  rw [ofBytes_eq]
  exact empty_indexed.applyAll (recordsOf content)

theorem ofBytes_append_recordLines (h : Bytes.Terminated content) (records : List Entry) :
    ofBytes (content ++ recordLines records) = records.foldl apply (ofBytes content) := by
  have hread : ∀ log : Log, ((records.map recordLine).map readLine).foldl take log = records.foldl apply log := by
    intro log
    rw [List.map_map, List.foldl_map]
    simp only [Function.comp, readLine_recordLine, take]
  unfold ofBytes ofLines
  rw [h.lines_append, lines_recordLines, List.map_append, List.foldl_append, hread]

theorem ids_apply (log : Log) (h : log.Indexed) (r : Entry) : (log.apply r).entries.toList.map Entry.id =
    if r.id ∈ log.entries.toList.map Entry.id then log.entries.toList.map Entry.id
    else log.entries.toList.map Entry.id ++ [r.id] := by
  cases hid : log.positions[r.id]? with
  | none =>
    have hnew : r.id ∉ log.entries.toList.map Entry.id := by
      intro hmem
      obtain ⟨e, he, heq⟩ := List.mem_map.mp hmem
      exact h.position_eq_none hid e (Array.mem_toList_iff.mp he) heq
    rw [apply_fresh hid, if_neg hnew, Array.toList_push, List.map_append]
    rfl
  | some p =>
    obtain ⟨x, hx, hxid⟩ := (h r.id p).mp hid
    have hold : r.id ∈ log.entries.toList.map Entry.id :=
      List.mem_map.mpr ⟨x, Array.mem_toList_iff.mpr (Array.mem_iff_getElem?.mpr ⟨p, hx⟩), hxid⟩
    rw [apply_known hid, if_pos hold]
    split
    · show (log.entries.modify p Entry.markDeleted).toList.map Entry.id = _
      refine List.ext_getElem? fun q => ?_
      rw [List.getElem?_map, List.getElem?_map, Array.getElem?_toList, Array.getElem?_toList, getElem?_modify_markDeleted,
        Option.map_map]
      refine Option.map_congr fun e _ => ?_
      show Entry.id (if p = q then e.markDeleted else e) = e.id
      split <;> rfl
    · rfl

theorem ids_foldl_apply (records : List Entry) : (records.foldl apply empty).entries.toList.map Entry.id =
    (records.map Entry.id).eraseDups := by
  induction records using List.reverseRecOn with
  | nil => rfl
  | append_singleton records r ih =>
    rw [List.foldl_append, List.foldl_cons, List.foldl_nil, ids_apply _ (empty_indexed.applyAll records), ih,
      List.map_append, List.map_cons, List.map_nil, eraseDups_concat]
    simp only [List.mem_eraseDups]

theorem ids_ofBytes (content : Bytes) : (ofBytes content).entries.toList.map Entry.id =
    ((recordsOf content).map Entry.id).eraseDups := by
  rw [ofBytes_eq]
  exact ids_foldl_apply (recordsOf content)

theorem entries_foldl_apply (records : List Entry) (h : log.Indexed) (hnodup : (records.map Entry.id).Nodup)
    (hnew : ∀ r ∈ records, log.positions[r.id]? = none) :
    (records.foldl apply log).entries.toList = log.entries.toList ++ records := by
  induction records generalizing log with
  | nil => exact (List.append_nil _).symm
  | cons r records ih =>
    rw [List.map_cons, List.nodup_cons] at hnodup
    have hr := apply_fresh (hnew r List.mem_cons_self)
    have hrest : ∀ r' ∈ records, (log.apply r).positions[r'.id]? = none := by
      intro r' hr'
      have hne : r.id ≠ r'.id := fun heq => hnodup.1 (heq ▸ List.mem_map_of_mem hr')
      rw [hr]
      show (log.positions.insert r.id log.entries.size)[r'.id]? = none
      rw [Std.HashMap.getElem?_insert, if_neg fun hb => hne (beq_iff_eq.mp hb)]
      exact hnew r' (List.mem_cons_of_mem _ hr')
    rw [List.foldl_cons, ih (h.apply r) hnodup.2 hrest, hr]
    show (log.entries.push r).toList ++ records = _
    rw [Array.toList_push, List.append_assoc]
    rfl

theorem toBytes_eq (content : Bytes) : (ofBytes content).toBytes =
    recordLines (ofBytes content).entries.toList ++
      ((malformedLines content).map dropLineEnd).flatMap fun text => text ++ [10] := by
  unfold toBytes
  rw [unparsed_ofBytes]

theorem newline_not_mem_kept (content : Bytes) : ∀ text ∈ (malformedLines content).map dropLineEnd, 10 ∉ text := by
  intro text hmem
  obtain ⟨line, hline, rfl⟩ := List.mem_map.mp hmem
  exact newline_not_mem_dropLineEnd (List.mem_filter.mp hline).1

theorem toBytes_terminated (content : Bytes) : Bytes.Terminated (ofBytes content).toBytes := by
  rw [toBytes_eq]
  exact (recordLines_terminated _).append ⟨_, newline_not_mem_kept content, rfl⟩

theorem lines_toBytes (content : Bytes) : Bytes.lines (ofBytes content).toBytes =
    (ofBytes content).entries.toList.map recordLine ++
      (malformedLines content).map fun line => dropLineEnd line ++ [10] := by
  rw [toBytes_eq, (recordLines_terminated _).lines_append, lines_recordLines,
    Bytes.lines_texts _ (newline_not_mem_kept content), List.map_map]
  rfl

theorem malformed_of_mem {line : Bytes} (h : line ∈ malformedLines content) : Malformed line :=
  isMalformed_iff.mp (List.mem_filter.mp h).2

theorem recordsOf_toBytes (content : Bytes) : recordsOf (ofBytes content).toBytes = (ofBytes content).entries.toList := by
  have hrecords : ∀ entries : List Entry,
      (entries.map recordLine).filterMap (fun line => (readLine line).record?) = entries := by
    intro entries
    rw [List.filterMap_map]
    simp only [Function.comp_def, readLine_recordLine, Line.record?]
    exact List.filterMap_some
  unfold recordsOf
  rw [lines_toBytes, List.filterMap_append, hrecords, List.filterMap_map]
  refine (congrArg _ (List.filterMap_eq_nil_iff.mpr ?_)).trans (List.append_nil _)
  intro line hline
  obtain ⟨cause, hcause⟩ := readLine_malformed (malformed_of_mem hline).kept
  rw [Function.comp, hcause]
  rfl

theorem malformedLines_toBytes (content : Bytes) : malformedLines (ofBytes content).toBytes =
    (malformedLines content).map fun line => dropLineEnd line ++ [10] := by
  rw [malformedLines, lines_toBytes, List.filter_append, List.filter_eq_nil_iff.mpr, List.nil_append,
    List.filter_eq_self.mpr]
  · intro line hline
    obtain ⟨original, horiginal, rfl⟩ := List.mem_map.mp hline
    exact isMalformed_iff.mpr (malformed_of_mem horiginal).kept
  · intro line hline
    obtain ⟨e, -, rfl⟩ := List.mem_map.mp hline
    rw [readLine_recordLine]
    exact Bool.false_ne_true

theorem entries_ofBytes_toBytes (content : Bytes) :
    (ofBytes (ofBytes content).toBytes).entries = (ofBytes content).entries := by
  have hnodup := (ofBytes_indexed content).nodup
  have hentries := entries_foldl_apply (ofBytes content).entries.toList empty_indexed hnodup fun r _ => by simp [empty]
  rw [ofBytes_eq (ofBytes content).toBytes, recordsOf_toBytes, ← Array.toList_inj]
  exact hentries

theorem get?_ofBytes_toBytes (content : Bytes) : (ofBytes (ofBytes content).toBytes).get? = (ofBytes content).get? :=
  (ofBytes_indexed _).get?_congr (ofBytes_indexed content) (entries_ofBytes_toBytes content)

/-- A text that says what another one said, with one line for each id. -/
structure Rewrites (content file : Bytes) : Prop where
  lines : Bytes.lines file = (ofBytes content).entries.toList.map recordLine ++
    (malformedLines content).map fun line => dropLineEnd line ++ [10]
  ids : (ofBytes content).entries.toList.map Entry.id = ((recordsOf content).map Entry.id).eraseDups
  ended : ∀ line ∈ Bytes.lines file, line.getLast? = some 10
  malformed : malformedLines file = (malformedLines content).map fun line => dropLineEnd line ++ [10]

theorem rewrites_toBytes (content : Bytes) : Rewrites content (ofBytes content).toBytes where
  lines := lines_toBytes content
  ids := ids_ofBytes content
  ended line hline := by
    rw [lines_toBytes] at hline
    rcases List.mem_append.mp hline with hline | hline
    · obtain ⟨e, -, rfl⟩ := List.mem_map.mp hline
      exact List.getLast?_concat
    · obtain ⟨original, -, rfl⟩ := List.mem_map.mp hline
      exact List.getLast?_concat
  malformed := malformedLines_toBytes content

end ShortLinks.Log
