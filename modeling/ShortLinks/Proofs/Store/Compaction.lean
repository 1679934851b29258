import ShortLinks.Proofs.Store.File

/-!
# Compaction preserves the store

Opening a log and compacting it write the log anew. Whatever bytes the old log held, the store answers afterwards
what these bytes said, and the new log holds that and the malformed lines of the old one.
-/

set_option autoImplicit false

namespace ShortLinks.FileStore

variable {s s₀ : FileStore} {d : Disk} {path : String} {log : Log} {e : Entry} {id : String}

structure Answers (s : FileStore) (log : Log) : Prop where
  getById (id : String) : ((Store.getById id).run s).outcome = .ok (log.get? id)
  allByOwner (owner : String) :
    ((Store.allByOwner owner).run s).outcome = .ok (log.entries.toList.filter (·.isOwnedBy owner))
  stats : (Store.stats.run s).outcome = .ok (Stats.ofEntries log.entries.toList)
  conflict (e : Entry) (id : String) :
    ((Store.add e).run s).outcome = .error (.createConflict id) ↔ (log.liveFor? e.target).map Entry.id = some id

theorem outcome_of_read {α : Type} {f : Log → Action StoreError FileStore α} {r : Except StoreError α}
    (h : s.disk.Holds s.path s.log) (hf : ((f s.logOf).run s).outcome = r) : ((readAll >>= f).run s).outcome = r := by
  have hread := (readAll_of_holds h).bind (Action.ends_run (f s.logOf) s)
  exact hread.1.trans hf

theorem append_pure_ne_conflict {α : Type} {records : List Entry} {x : α} {r : Except StoreError α} {s' : FileStore}
    (h : (do append records; pure x : Action StoreError FileStore α).Ends s r s') : r ≠ .error (.createConflict id) := by
  rcases Action.ends_bind.mp h with ⟨_, s₁, -, hpure⟩ | ⟨e, happend, rfl⟩
  · rw [(Action.ends_pure.mp hpure).1]
    exact nofun
  · obtain ⟨-, cause, heq⟩ := append_fails happend
    cases heq
    exact nofun

theorem add_conflict_iff (h : s.disk.Holds s.path s.log) : ((Store.add e).run s).outcome = .error (.createConflict id) ↔
    (s.logOf.liveFor? e.target).map Entry.id = some id := by
  have hends := (readAll_of_holds h).bind_iff.mp (Action.ends_run (Store.add e) s)
  unfold Log.refusal? at hends
  generalize ((Store.add e).run s).outcome = r at hends
  cases hlive : s.logOf.liveFor? e.target with
  | some x =>
    rw [hlive] at hends
    rw [(Action.ends_fail.mp hends).1]
    simp
  | none =>
    rw [hlive] at hends
    refine iff_of_false ?_ nofun
    by_cases hid : s.logOf.contains e.id = true
    · dsimp only at hends
      rw [if_pos hid] at hends
      rw [(Action.ends_fail.mp hends).1]
      exact nofun
    · dsimp only at hends
      rw [if_neg hid] at hends
      exact append_pure_ne_conflict hends

theorem answers_of_holds (h : s.disk.Holds s.path s.log) : s.Answers s.logOf where
  getById _ := outcome_of_read h rfl
  allByOwner _ := outcome_of_read h rfl
  stats := outcome_of_read h rfl
  conflict _ _ := add_conflict_iff h

theorem Ready.answers (h : s.Ready) : s.Answers s.logOf := answers_of_holds h.holds

theorem Answers.congr {log' : Log} (h : s.Answers log) (hlog : log.Indexed) (hlog' : log'.Indexed)
    (hentries : log.entries = log'.entries) : s.Answers log' where
  getById id := by rw [h.getById, hlog.get?_congr hlog' hentries]
  allByOwner owner := by rw [h.allByOwner, hentries]
  stats := by rw [h.stats, hentries]
  conflict e id := by rw [h.conflict, Log.liveFor?, Log.liveFor?, hentries]

theorem Rewritten.answers (h : Rewritten path d s) : s.Answers (Log.ofBytes ((d.content? path).getD [])) := by
  have hanswers := h.ready.answers
  rw [h.logOf_eq] at hanswers
  exact hanswers.congr (Log.ofBytes_indexed _) (Log.ofBytes_indexed _) (Log.entries_ofBytes_toBytes _)

/-- After a log has been opened or compacted, the store answers what the bytes found under the path said, and the
bytes that are there now are these rewritten. -/
theorem rewriting_preserves_answers (h : Opens path d s ∨ ∃ s₀ : FileStore, s₀.path = path ∧ s₀.disk = d ∧
      (compact.Ends s₀ (.ok ()) s ∨ reopen.Ends s₀ (.ok ()) s)) :
    s.Answers (Log.ofBytes ((d.content? path).getD [])) ∧
      ∃ file, s.disk.content? path = some file ∧ Log.Rewrites ((d.content? path).getD []) file := by
  have hrewritten : Rewritten path d s := by
    rcases h with hopen | ⟨s₀, rfl, rfl, hcompact | hreopen⟩
    · exact hopen.rewritten
    · exact compact_ends hcompact
    · exact (reopen_ends hreopen).rewritten
  refine ⟨hrewritten.answers, s.disk.contents s.log, ?_, ?_⟩
  · exact hrewritten.path_eq ▸ Disk.content?_of_holds hrewritten.ready.holds
  · rw [hrewritten.content]
    exact Log.rewrites_toBytes _

def notedDisk : Disk := ((Disk.blank []).create ["log"]).setContents 0 [120, 13, 10]

theorem notedDisk_holds : notedDisk.Holds "log" 0 := ⟨["log"], by decide, by decide⟩

theorem notedDisk_opens : ∃ s, Opens "log" notedDisk s :=
  exists_opens notedDisk_holds.writable ⟨["log.compact"], by decide, by decide⟩ (fun _ h => by cases h)

/-- A record, a blank line, a line that is no record, and the tombstone of the entry. -/
def mixedLines : List Bytes :=
  [Record.encode (Entry.create "a" "t" (some "o") none), [12], [120, 13],
    Record.encode (Entry.create "a" "t" (some "o") none).markDeleted]

def mixedText : Bytes := mixedLines.flatMap (· ++ [10])

def mixedDisk : Disk := ((Disk.blank []).create ["log"]).setContents 0 mixedText

theorem mixedDisk_holds : mixedDisk.Holds "log" 0 := ⟨["log"], by decide, by decide⟩

theorem newline_not_mem_mixedLines : ∀ line ∈ mixedLines, 10 ∉ line := by
  simp only [mixedLines, List.forall_mem_cons]
  exact ⟨Log.newline_not_mem_encode _, by decide, by decide, Log.newline_not_mem_encode _, nofun⟩

theorem recordsOf_mixedText : Log.recordsOf mixedText =
    [Entry.create "a" "t" (some "o") none, (Entry.create "a" "t" (some "o") none).markDeleted] := by
  have hrecord (e : Entry) : (Log.readLine (Record.encode e ++ [10])).record? = some e :=
    congrArg Log.Line.record? (Log.readLine_recordLine e)
  have hblank : (Log.readLine ([12] ++ [10])).record? = none := rfl
  have hmalformed : (Log.readLine ([120, 13] ++ [10])).record? = none := rfl
  rw [Log.recordsOf, mixedText, Bytes.lines_texts _ newline_not_mem_mixedLines]
  simp only [mixedLines, List.map_cons, List.map_nil, List.filterMap_cons, List.filterMap_nil, hrecord, hblank, hmalformed]

theorem get?_mixedText :
    (Log.ofBytes mixedText).get? "a" = some (Entry.create "a" "t" (some "o") none).markDeleted := by
  have hfresh := Log.empty_indexed.get?_apply_fresh (r := Entry.create "a" "t" (some "o") none) (Log.get?_empty "a")
  have hfound : (Log.empty.apply (Entry.create "a" "t" (some "o") none)).get? "a" =
      some (Entry.create "a" "t" (some "o") none) := by
    rw [hfresh]
    exact Contents.store_self _ (Entry.create "a" "t" (some "o") none)
  have hdeleted := (Log.empty_indexed.apply _).get?_apply_markDeleted (e := Entry.create "a" "t" (some "o") none) hfound
  rw [Log.ofBytes_eq, recordsOf_mixedText]
  change ((Log.empty.apply _).apply (Entry.markDeleted _)).get? "a" = _
  rw [hdeleted]
  exact Contents.store_self _ (Entry.create "a" "t" (some "o") none).markDeleted

/-- A log with a malformed line, in which an entry is recorded and then deleted, is opened and then compacted. -/
theorem mixedDisk_rewritten : ∃ s s' file file', Opens "log" mixedDisk s ∧ compact.Ends s (.ok ()) s' ∧
    s.disk.content? "log" = some file ∧ Log.Rewrites mixedText file ∧ s.Answers (Log.ofBytes mixedText) ∧
    s'.disk.content? "log" = some file' ∧ Log.Rewrites file file' ∧ s'.Answers (Log.ofBytes file) ∧
    ((Store.getById "a").run s').outcome = .ok (some (Entry.create "a" "t" (some "o") none).markDeleted) := by
  have hsteady : mixedDisk.Steady := fun _ h => by cases h
  obtain ⟨s, hopens⟩ := exists_opens mixedDisk_holds.writable ⟨["log.compact"], by decide, by decide⟩ hsteady
  obtain ⟨s', hcompact⟩ := compact_of_steady hopens.rewritten.ready (hopens.rewritten.later.steady hsteady)
  obtain ⟨hanswers, file, hfile, hrewrites⟩ := rewriting_preserves_answers (.inl hopens)
  obtain ⟨hanswers', file', hfile', hrewrites'⟩ :=
    rewriting_preserves_answers (.inr ⟨s, hopens.rewritten.path_eq, rfl, .inl hcompact⟩)
  rw [Disk.content?_of_holds mixedDisk_holds] at hanswers hrewrites
  rw [hfile] at hanswers' hrewrites'
  refine ⟨s, s', file, file', hopens, hcompact, hfile, hrewrites, hanswers, hfile', hrewrites', hanswers', ?_⟩
  have hsame : file = (Log.ofBytes mixedText).toBytes := by
    have hcontent := hopens.rewritten.content
    rw [Disk.content?_of_holds mixedDisk_holds] at hcontent
    have hheld := Disk.content?_of_holds hopens.rewritten.ready.holds
    rw [hopens.rewritten.path_eq, hfile] at hheld
    exact (Option.some.inj hheld).trans hcontent
  rw [hanswers'.getById, Option.getD_some, hsame, Log.get?_ofBytes_toBytes, get?_mixedText]

end ShortLinks.FileStore
