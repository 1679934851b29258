import ShortLinks.Proofs.Store.Compaction

/-!
# What a log says

Reading a log is a loop over its lines that changes what it knows with each of them. What it knows in the end can be said
without the loop: the first record of an id fixes its entry, any record of the id may delete it, and each line that is
neither blank nor a record is noted under its own number. There is no text that cannot be read.
-/

set_option autoImplicit false

namespace ShortLinks

namespace Bytes

variable {content line : Bytes} {pieces : List Bytes}

/-- A text that is cut after each line feed; the last piece may have none. -/
structure Cut (content : Bytes) (pieces : List Bytes) : Prop where
  joined : pieces.flatten = content
  nonempty : ∀ line ∈ pieces, line ≠ []
  unbroken : ∀ line ∈ pieces, 10 ∉ line.dropLast
  ended : ∀ line ∈ pieces.dropLast, line.getLast? = some 10

theorem mem_dropLast_cons {first : Bytes} (h : line ∈ (first :: pieces).dropLast) :
    (line = first ∧ pieces ≠ []) ∨ line ∈ pieces.dropLast := by
  cases pieces with
  | nil => cases h
  | cons second rest =>
    rcases List.mem_cons.mp h with rfl | hmem
    · exact .inl ⟨rfl, List.cons_ne_nil _ _⟩
    · exact .inr hmem

theorem mem_dropLast_cons_of_mem {first : Bytes} (h : line ∈ pieces.dropLast) : line ∈ (first :: pieces).dropLast := by
  cases pieces with
  | nil => cases h
  | cons second rest => exact List.mem_cons_of_mem first h

theorem cut_lines (content : Bytes) : Cut content (lines content) := by
  induction content with
  | nil => exact ⟨rfl, by simp [lines], by simp [lines], by simp [lines]⟩
  | cons b content ih =>
    rw [lines]
    by_cases hb : b = 10
    · rw [if_pos hb, hb]
      refine ⟨congrArg (List.cons 10) ih.joined, ?_, ?_, fun line hline => ?_⟩
      · exact List.forall_mem_cons.mpr ⟨List.cons_ne_nil _ _, ih.nonempty⟩
      · exact List.forall_mem_cons.mpr ⟨List.not_mem_nil, ih.unbroken⟩
      · rcases mem_dropLast_cons hline with ⟨rfl, -⟩ | hmem
        · rfl
        · exact ih.ended line hmem
    · rw [if_neg hb]
      cases hlines : lines content with
      | nil =>
        rw [hlines] at ih
        exact ⟨congrArg (List.cons b) ih.joined, by simp, by simp, by simp⟩
      | cons first rest =>
        rw [hlines] at ih
        -- the byte goes in front of the first line, which is not empty
        obtain ⟨a, first, rfl⟩ := List.exists_cons_of_ne_nil (ih.nonempty first List.mem_cons_self)
        obtain ⟨hfirst, hrest⟩ := List.forall_mem_cons.mp ih.unbroken
        refine ⟨congrArg (List.cons b) ih.joined, ?_, ?_, fun line hline => ?_⟩
        · exact List.forall_mem_cons.mpr ⟨List.cons_ne_nil _ _, (List.forall_mem_cons.mp ih.nonempty).2⟩
        · refine List.forall_mem_cons.mpr ⟨?_, hrest⟩
          rw [List.dropLast_cons_of_ne_nil (List.cons_ne_nil _ _), List.mem_cons, not_or]
          exact ⟨Ne.symm hb, hfirst⟩
        · rcases mem_dropLast_cons hline with ⟨rfl, hne⟩ | hmem
          · rw [List.getLast?_cons_cons]
            refine ih.ended (a :: first) ?_
            rw [List.dropLast_cons_of_ne_nil hne]
            exact List.mem_cons_self
          · exact ih.ended line (mem_dropLast_cons_of_mem hmem)

theorem Cut.eq_lines (h : Cut content pieces) : pieces = lines content := by
  induction pieces generalizing content with
  | nil =>
    obtain rfl := h.joined
    rfl
  | cons first rest ih =>
    obtain ⟨hnil, hnonempty⟩ := List.forall_mem_cons.mp h.nonempty
    obtain ⟨hfirst, hunbroken⟩ := List.forall_mem_cons.mp h.unbroken
    obtain rfl := h.joined
    have hrest : rest = lines rest.flatten :=
      ih ⟨rfl, hnonempty, hunbroken, fun line hline => h.ended line (mem_dropLast_cons_of_mem hline)⟩
    rw [List.flatten_cons]
    obtain ⟨text, b, rfl⟩ := (List.eq_nil_or_concat' first).resolve_left hnil
    rw [List.dropLast_concat] at hfirst
    by_cases hb : b = 10
    · rw [hb, List.append_assoc, List.singleton_append, lines_line_append hfirst, ← hrest]
    · cases rest with
      | nil =>
        rw [List.flatten_nil, List.append_nil, lines_of_not_mem _ hnil]
        rw [List.mem_append, not_or]
        exact ⟨hfirst, by simpa using Ne.symm hb⟩
      | cons second rest =>
        have hended := h.ended (text ++ [b]) List.mem_cons_self
        rw [List.getLast?_concat] at hended
        exact absurd (Option.some.inj hended) hb

theorem cut_iff : Cut content pieces ↔ pieces = lines content :=
  ⟨Cut.eq_lines, fun h => h ▸ cut_lines content⟩

end Bytes

namespace Log

variable {log : Log} {lines : List Bytes} {line : Bytes} {r e : Entry} {id : String}

def recordOf? (line : Bytes) : Option Entry :=
  if line.all Bytes.isAsciiBlank then none else (Record.decode line).toOption

theorem record?_readLine (line : Bytes) : (readLine line).record? = recordOf? line := by
  unfold readLine recordOf?
  split
  · rfl
  · cases Record.decode line <;> rfl

theorem recordsOf_eq (content : Bytes) : recordsOf content = (Bytes.lines content).filterMap recordOf? := by
  unfold recordsOf
  simp only [record?_readLine]

theorem any_deleted_of_find?_eq_none {records : List Entry} (h : records.find? (fun r => r.id == id) = none) :
    records.any (fun r => r.id == id && r.deleted) = false := by
  rw [List.any_eq_false]
  intro r hr
  simp [List.find?_eq_none.mp h r hr]

theorem get?_foldl_apply (records : List Entry) (id : String) : (records.foldl apply empty).get? id =
    (records.find? fun r => r.id == id).map fun first =>
      { first with deleted := records.any fun r => r.id == id && r.deleted } := by
  induction records using List.reverseRecOn generalizing id with
  | nil => exact get?_empty id
  | append_singleton records r ih =>
    have hindexed := empty_indexed.applyAll records
    rw [List.foldl_append, List.foldl_cons, List.foldl_nil, List.find?_append, List.any_append]
    by_cases hnew : (records.foldl apply empty).get? r.id = none
    · have hfirst : records.find? (fun x => x.id == r.id) = none := Option.map_eq_none_iff.mp ((ih r.id).symm.trans hnew)
      rw [hindexed.get?_apply_fresh hnew]
      by_cases hid : id = r.id
      · subst hid
        rw [Contents.store_self, hfirst, any_deleted_of_find?_eq_none hfirst]
        simp
      · have hother : (r.id == id) = false := beq_eq_false_iff_ne.mpr (Ne.symm hid)
        rw [Contents.store_other hid, ih]
        simp [hother]
    · rw [hindexed.get?_apply_known hnew]
      dsimp only
      rw [ih]
      cases hfirst : records.find? (fun x => x.id == id) with
      | none =>
        have hother : (r.id == id) = false := by
          refine beq_eq_false_iff_ne.mpr fun heq => hnew ?_
          rw [heq, ih, hfirst]
          rfl
        simp [hother]
      | some first =>
        have hid : first.id = id := by simpa using List.find?_some hfirst
        rw [Option.some_or, Option.map_some, Option.map_some, Option.map_some]
        by_cases hsame : id = r.id
        · cases hdel : r.deleted <;> simp [hid, hsame, hdel, Entry.markDeleted]
        · have hother : (r.id == id) = false := beq_eq_false_iff_ne.mpr (Ne.symm hsame)
          simp [hid, hsame, hother]

/-- What the lines of a text say of entries. -/
structure Tells (lines : List Bytes) (log : Log) : Prop where
  found_iff (id : String) : (∃ e, log.get? id = some e) ↔ ∃ line ∈ lines, ∃ r, recordOf? line = some r ∧ r.id = id
  /-- All of an entry but its deletion is in the first record of its id. -/
  first (id : String) (e : Entry) : log.get? id = some e → ∃ before line after r, lines = before ++ line :: after ∧
    (∀ earlier ∈ before, ∀ other, recordOf? earlier = some other → other.id ≠ id) ∧ recordOf? line = some r ∧ r.id = id ∧
    e.id = id ∧ e.target = r.target ∧ e.owner = r.owner ∧ e.correlation = r.correlation
  deleted_iff (id : String) (e : Entry) : log.get? id = some e →
    (e.deleted = true ↔ ∃ line ∈ lines, ∃ r, recordOf? line = some r ∧ r.id = id ∧ r.deleted = true)
  listed (e : Entry) : e ∈ log.entries ↔ log.get? e.id = some e
  /-- The entries stand in the order in which their ids are first met, each of them once. -/
  order : log.entries.toList.map Entry.id = ((lines.filterMap recordOf?).map Entry.id).eraseDups

theorem find?_records (lines : List Bytes) (id : String) : (lines.filterMap recordOf?).find? (fun r => r.id == id) =
    (lines.find? fun line => (recordOf? line).any fun r => r.id == id).bind recordOf? :=
  List.find?_filterMap

theorem any_records (lines : List Bytes) (id : String) :
    (lines.filterMap recordOf?).any (fun r => r.id == id && r.deleted) = true ↔
      ∃ line ∈ lines, ∃ r, recordOf? line = some r ∧ r.id = id ∧ r.deleted = true := by
  simp only [List.any_eq_true, List.mem_filterMap, Bool.and_eq_true, beq_iff_eq]
  constructor
  · rintro ⟨r, ⟨line, hline, hr⟩, hid, hdel⟩
    exact ⟨line, hline, r, hr, hid, hdel⟩
  · rintro ⟨line, hline, r, hr, hid, hdel⟩
    exact ⟨r, ⟨line, hline, hr⟩, hid, hdel⟩

/-- The entry of an id in terms of the lines: which line decides it, and which may delete it. -/
theorem get?_ofBytes_eq_some (content : Bytes) : (ofBytes content).get? id = some e ↔
    ∃ line r, (Bytes.lines content).find? (fun line => (recordOf? line).any fun r => r.id == id) = some line ∧
      recordOf? line = some r ∧
      e = { r with deleted := ((Bytes.lines content).filterMap recordOf?).any fun r => r.id == id && r.deleted } := by
  have hget : (ofBytes content).get? = ((recordsOf content).foldl apply empty).get? := by
    rw [ofBytes_eq]
    rfl
  rw [hget, get?_foldl_apply, Option.map_eq_some_iff, recordsOf_eq, find?_records]
  constructor
  · rintro ⟨r, hr, rfl⟩
    obtain ⟨line, hline, hread⟩ := Option.bind_eq_some_iff.mp hr
    exact ⟨line, r, hline, hread, rfl⟩
  · rintro ⟨line, r, hline, hread, rfl⟩
    exact ⟨r, Option.bind_eq_some_iff.mpr ⟨line, hline, hread⟩, rfl⟩

theorem tells_lines (content : Bytes) : Tells (Bytes.lines content) (ofBytes content) where
  found_iff id := by
    constructor
    · rintro ⟨e, he⟩
      obtain ⟨line, r, hfind, hread, -⟩ := (get?_ofBytes_eq_some content).mp he
      have hid := List.find?_some hfind
      rw [hread, Option.any_some, beq_iff_eq] at hid
      exact ⟨line, List.mem_of_find?_eq_some hfind, r, hread, hid⟩
    · rintro ⟨line, hline, r, hread, hid⟩
      cases hfind : (Bytes.lines content).find? (fun line => (recordOf? line).any fun r => r.id == id) with
      | none =>
        have hno := List.find?_eq_none.mp hfind line hline
        rw [hread, Option.any_some, beq_iff_eq] at hno
        exact absurd hid hno
      | some first =>
        have hfirst := List.find?_some hfind
        obtain ⟨x, hx, -⟩ := (Option.any_eq_true ..).mp hfirst
        exact ⟨_, (get?_ofBytes_eq_some content).mpr ⟨first, x, hfind, hx, rfl⟩⟩
  first id e he := by
    obtain ⟨line, r, hfind, hread, rfl⟩ := (get?_ofBytes_eq_some content).mp he
    obtain ⟨hid, before, after, hlines, hbefore⟩ := List.find?_eq_some_iff_append.mp hfind
    rw [hread, Option.any_some, beq_iff_eq] at hid
    refine ⟨before, line, after, r, hlines, fun earlier hearlier other hother => ?_, hread, hid, hid, rfl, rfl, rfl⟩
    have hno := hbefore earlier hearlier
    rw [hother] at hno
    simpa using hno
  deleted_iff id e he := by
    obtain ⟨line, r, -, -, rfl⟩ := (get?_ofBytes_eq_some content).mp he
    exact any_records (Bytes.lines content) id
  listed e := by
    rw [(ofBytes_indexed content).get?_eq_some, and_iff_left rfl]
  order := by
    rw [ids_ofBytes, recordsOf_eq]

/-- The lines that are neither blank nor records, in order, each with its number, counted from one, and with what is wrong
with it. -/
structure Faulty (lines : List Bytes) (faulty : List (Nat × Bytes × Record.DecodeError)) : Prop where
  ascending : (faulty.map Prod.fst).Pairwise (· < ·)
  mem_iff (number : Nat) (line : Bytes) (cause : Record.DecodeError) : (number, line, cause) ∈ faulty ↔
    1 ≤ number ∧ lines[number - 1]? = some line ∧ (∃ b ∈ line, Bytes.isAsciiBlank b = false) ∧
      Record.decode line = .error cause

def fault? (line : Bytes) : Option Record.DecodeError :=
  match readLine line with
  | .malformed _ cause => some cause
  | _ => none

theorem fault?_eq_some {cause : Record.DecodeError} : fault? line = some cause ↔
    (∃ b ∈ line, Bytes.isAsciiBlank b = false) ∧ Record.decode line = .error cause := by
  unfold fault? readLine
  by_cases hblank : line.all Bytes.isAsciiBlank = true
  · rw [if_pos hblank]
    refine iff_of_false nofun ?_
    rintro ⟨⟨b, hb, hnot⟩, -⟩
    rw [List.all_eq_true.mp hblank b hb] at hnot
    cases hnot
  · rw [if_neg hblank]
    have hsome : ∃ b ∈ line, Bytes.isAsciiBlank b = false := by simpa using hblank
    rw [and_iff_right hsome]
    cases Record.decode line with
    | ok e => exact iff_of_false nofun nofun
    | error cause' => simp

def faultyOf (lines : List Bytes) : List (Nat × Bytes × Record.DecodeError) :=
  (lines.zipIdx 1).filterMap fun (line, number) => (fault? line).map fun cause => (number, line, cause)

theorem faulty_faultyOf (lines : List Bytes) : Faulty lines (faultyOf lines) where
  ascending := by
    have hnumbers : ((lines.zipIdx 1).map Prod.snd).Pairwise (· < ·) := by
      rw [List.zipIdx_map_snd]
      exact List.pairwise_lt_range'
    rw [faultyOf, List.pairwise_map]
    refine (List.pairwise_map.mp hnumbers).filterMap _ ?_
    rintro ⟨line, number⟩ ⟨line', number'⟩ hlt b hb b' hb'
    obtain ⟨cause, -, rfl⟩ := Option.map_eq_some_iff.mp hb
    obtain ⟨cause', -, rfl⟩ := Option.map_eq_some_iff.mp hb'
    exact hlt
  mem_iff number line cause := by
    rw [faultyOf, List.mem_filterMap, ← fault?_eq_some]
    constructor
    · rintro ⟨⟨other, n⟩, hmem, hfault⟩
      obtain ⟨cause', hcause, heq⟩ := Option.map_eq_some_iff.mp hfault
      cases heq
      obtain ⟨hle, hline⟩ := List.mk_mem_zipIdx_iff_le_and_getElem?_sub.mp hmem
      exact ⟨hle, hline, hcause⟩
    · rintro ⟨hle, hline, hcause⟩
      exact ⟨(line, number), List.mk_mem_zipIdx_iff_le_and_getElem?_sub.mpr ⟨hle, hline⟩,
        Option.map_eq_some_iff.mpr ⟨cause, hcause, rfl⟩⟩

theorem faults_eq (lines : List Bytes) :
    faults (lines.map readLine) = (faultyOf lines).map fun (number, _, cause) => (number, cause) := by
  unfold faults faultyOf
  rw [List.zipIdx_map, List.filterMap_map, List.map_filterMap]
  refine List.filterMap_congr fun p _ => ?_
  obtain ⟨line, number⟩ := p
  simp only [Function.comp_apply, Prod.map_apply, id_eq, fault?]
  cases readLine line <;> rfl

theorem isMalformed_readLine (line : Bytes) : (readLine line).isMalformed = (fault? line).isSome := by
  unfold fault?
  cases readLine line <;> rfl

theorem map_malformed {α : Type} (f : Bytes → α) (lines : List Bytes) :
    (lines.filter fun line => (readLine line).isMalformed).map f =
      lines.filterMap fun line => (fault? line).map fun _ => f line := by
  rw [← List.filterMap_eq_map, List.filterMap_filter]
  refine List.filterMap_congr fun line _ => ?_
  rw [isMalformed_readLine]
  cases fault? line <;> rfl

theorem unparsed_eq (content : Bytes) :
    (ofBytes content).unparsed = (faultyOf (Bytes.lines content)).map fun (_, line, _) => dropLineEnd line := by
  -- what is kept of a line does not depend on its number
  have hlines := List.zipIdx_map_fst 1 (Bytes.lines content)
  rw [unparsed_ofBytes, malformedLines, map_malformed, faultyOf, List.map_filterMap]
  conv_lhs => rw [← hlines, List.filterMap_map]
  refine List.filterMap_congr fun p _ => ?_
  rw [Option.map_map]
  rfl

end Log

namespace FileStore

open Log (Tells Faulty)

variable {path : String} {d : Disk} {content : Bytes}

theorem readLog_run (h : d.content? path = some content) : (readLog path).run d =
    ⟨.ok (Log.ofBytes content), d, (Log.faults ((Bytes.lines content).map Log.readLine)).map fun (number, cause) =>
      .malformedRecord path number cause⟩ := by
  have hread : (Disk.readFile path).run d = ⟨.ok content, d, []⟩ := by
    have houtcome : ((Disk.readFile path).run d).outcome.toOption = some content := h
    have hstate := Disk.readFile_state path d
    have hevents := Disk.readFile_silent path d
    generalize (Disk.readFile path).run d = effect at houtcome hstate hevents ⊢
    obtain ⟨outcome, state, events⟩ := effect
    cases outcome with
    | error cause => cases houtcome
    | ok bytes =>
      cases houtcome
      cases hstate
      cases hevents
      rfl
  rw [readLog, Action.run_bind, Action.run_attempt, hread]
  show Effect.mk _ _ (_ ++ []) = _
  rw [List.append_nil]
  rfl

/-- Whatever bytes a log holds, all of it is read. Cut into lines, it tells of the entries what its records say, and each
line that is neither blank nor a record is noted once, under its number, and kept without its end. -/
theorem readLog_means (h : d.content? path = some content) : ∃ lines faulty log,
    (∀ pieces, Bytes.Cut content pieces ↔ pieces = lines) ∧ Tells lines log ∧ Faulty lines faulty ∧
    (readLog path).run d =
      ⟨.ok log, d, faulty.map fun (number, _, cause) => .malformedRecord path number cause⟩ ∧
    log.unparsed = faulty.map fun (_, line, _) => Log.dropLineEnd line := by
  refine ⟨Bytes.lines content, Log.faultyOf (Bytes.lines content), Log.ofBytes content, fun _ => Bytes.cut_iff,
    Log.tells_lines content, Log.faulty_faultyOf _, ?_, Log.unparsed_eq content⟩
  rw [readLog_run h, Log.faults_eq, List.map_map]
  rfl

theorem mixedDisk_readLog : mixedDisk.content? "log" = some (mixedLines.flatMap (· ++ [10])) ∧
    ∃ log events cause e, (readLog "log").run mixedDisk = ⟨.ok log, mixedDisk, events⟩ ∧
      .malformedRecord "log" 3 cause ∈ events ∧ log.get? "a" = some e ∧ e.deleted = true := by
  have hcontent : mixedDisk.content? "log" = some (mixedLines.flatMap (· ++ [10])) := rfl
  have hcut : Bytes.Cut (mixedLines.flatMap (· ++ [10])) (mixedLines.map (· ++ [10])) :=
    Bytes.cut_iff.mpr (Bytes.lines_texts _ newline_not_mem_mixedLines).symm
  obtain ⟨lines, faulty, log, hlines, htells, hfaulty, hrun, -⟩ := readLog_means hcontent
  obtain rfl := (hlines _).mp hcut
  have hrecord : ∀ e, Log.recordOf? (Record.encode e ++ [10]) = some e := by
    intro e
    rw [← Log.record?_readLine, Log.readLine_encode_append rfl]
    rfl
  obtain ⟨e, he⟩ := (htells.found_iff "a").mpr ⟨_, List.mem_cons_self, _, hrecord _, rfl⟩
  have hdeleted := (htells.deleted_iff "a" e he).mpr
    ⟨_, List.mem_of_getElem? (i := 3) rfl, _, hrecord _, rfl, rfl⟩
  obtain ⟨cause, hcause⟩ : ∃ cause, Record.decode ([120, 13] ++ [10]) = .error cause := ⟨_, rfl⟩
  have hmem := (hfaulty.mem_iff 3 ([120, 13] ++ [10]) cause).mpr ⟨by decide, rfl, ⟨120, by decide, rfl⟩, hcause⟩
  exact ⟨hcontent, log, _, cause, e, hrun, List.mem_map_of_mem hmem, he, hdeleted⟩

end FileStore
end ShortLinks
