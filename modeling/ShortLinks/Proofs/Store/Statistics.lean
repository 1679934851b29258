import Mathlib.Data.Set.Card
import ShortLinks.Proofs.Store.Obstruction
import ShortLinks.Proofs.Store.SoftDeletion

/-!
# What is counted

A store counts the entries that it finds under ids, and the owners recorded in them. An entry whose recorded owner is
the empty name is listed for nobody, and yet that name is counted: the number of owners is the number of those for whom
something is listed exactly if there is no such entry.
-/

set_option autoImplicit false

namespace ShortLinks

section

variable {σ : Type} [Store σ]

def foundIds (s : σ) : Set String := {id | ∃ e, Finds s id e}

def recordedOwners (s : σ) : Set String := {owner | ∃ id e, Finds s id e ∧ e.owner = some owner}

def listedOwners (s : σ) : Set String :=
  {owner | ∃ entries, ((Store.allByOwner owner).run s).outcome = .ok entries ∧ entries ≠ []}

/-- What the statistics of a store say about its lookups and listings. -/
structure Counts (s : σ) (st : Stats) : Prop where
  urls : (foundIds s).encard = st.urls
  users : (recordedOwners s).encard = st.users
  listed : listedOwners s = recordedOwners s \ {""}
  agrees_iff : (listedOwners s).encard = st.users ↔ ∀ id e, Finds s id e → e.owner ≠ some ""

structure Tells (s : σ) (entries : List Entry) : Prop where
  nodup : (entries.map Entry.id).Nodup
  finds (id : String) (e : Entry) : Finds s id e ↔ e ∈ entries ∧ e.id = id
  allByOwner (owner : String) : ∃ answers, ((Store.allByOwner owner).run s).outcome = .ok answers ∧
    answers.Perm (entries.filter (·.isOwnedBy owner))
  stats : (Store.stats.run s).outcome = .ok (Stats.ofEntries entries)

theorem encard_of_nodup {names : List String} (h : names.Nodup) : {name | name ∈ names}.encard = names.length := by
  rw [← List.coe_toFinset, Set.encard_coe_eq_coe_finsetCard, List.toFinset_card_of_nodup h]

theorem encard_sdiff_singleton_eq_iff {names : Set String} {name : String} {n : Nat} (h : names.encard = n) :
    (names \ {name}).encard = n ↔ name ∉ names := by
  constructor
  · intro hsame hmem
    have hone := Set.encard_sdiff_singleton_add_one hmem
    rw [hsame, h] at hone
    have hlt : n + 1 = n := by exact_mod_cast hone
    omega
  · intro hmem
    rw [Set.sdiff_singleton_eq_self hmem, h]

namespace Tells

variable {s : σ} {entries : List Entry}

theorem foundIds_eq (h : Tells s entries) : foundIds s = {id | id ∈ entries.map Entry.id} := by
  ext id
  simp only [foundIds, h.finds, Set.mem_ofPred_eq, List.mem_map]

theorem recordedOwners_eq (h : Tells s entries) :
    recordedOwners s = {owner | owner ∈ (entries.filterMap Entry.owner).eraseDups} := by
  ext owner
  simp only [recordedOwners, h.finds, Set.mem_ofPred_eq, List.mem_eraseDups, List.mem_filterMap]
  constructor
  · rintro ⟨id, e, ⟨he, -⟩, howner⟩
    exact ⟨e, he, howner⟩
  · rintro ⟨e, he, howner⟩
    exact ⟨e.id, e, ⟨he, rfl⟩, howner⟩

theorem listedOwners_eq (h : Tells s entries) : listedOwners s = recordedOwners s \ {""} := by
  ext owner
  obtain ⟨answers, hanswers, hperm⟩ := h.allByOwner owner
  have hlisted : owner ∈ listedOwners s ↔ ∃ e ∈ entries, e.isOwnedBy owner = true := by
    constructor
    · rintro ⟨listed, hlisted, hne⟩
      obtain rfl : answers = listed := by
        rw [hanswers] at hlisted
        exact Except.ok.inj hlisted
      obtain ⟨e, he⟩ := List.exists_mem_of_ne_nil _ hne
      exact ⟨e, List.mem_filter.mp (hperm.mem_iff.mp he)⟩
    · rintro ⟨e, he, howned⟩
      have hmem : e ∈ answers := hperm.mem_iff.mpr (List.mem_filter.mpr ⟨he, howned⟩)
      exact ⟨answers, hanswers, List.ne_nil_of_mem hmem⟩
  rw [hlisted, h.recordedOwners_eq]
  simp only [Entry.isOwnedBy, Bool.and_eq_true, bne_iff_ne, beq_iff_eq, Set.mem_sdiff, Set.mem_ofPred_eq,
    List.mem_eraseDups, List.mem_filterMap, Set.mem_singleton_iff]
  constructor
  · rintro ⟨e, he, hname, howner⟩
    exact ⟨⟨e, he, howner⟩, hname⟩
  · rintro ⟨⟨e, he, howner⟩, hname⟩
    exact ⟨e, he, hname, howner⟩

theorem counts (h : Tells s entries) : Counts s (Stats.ofEntries entries) := by
  have husers : (recordedOwners s).encard = (Stats.ofEntries entries).users := by
    rw [h.recordedOwners_eq]
    exact encard_of_nodup (nodup_eraseDups _)
  refine ⟨?_, husers, h.listedOwners_eq, ?_⟩
  · rw [h.foundIds_eq, encard_of_nodup h.nodup, List.length_map]
    rfl
  · rw [h.listedOwners_eq, encard_sdiff_singleton_eq_iff husers]
    simp only [recordedOwners, Set.mem_ofPred_eq, not_exists, not_and]

end Tells

end

open LawfulStore in
theorem MemoryStore.Reached.tells {s : MemoryStore} (h : s.Reached) : ∃ entries, Tells s entries := by
  obtain ⟨-, -, entries, hlist, hstats⟩ := stats_ends h.ready (Action.ends_run Store.stats s)
  refine ⟨entries, hlist.1, fun id e => ?_, fun owner => ?_, hstats⟩
  · rw [finds_iff h.ready]
    constructor
    · intro he
      have hid := keyed s h.ready id e he
      exact ⟨(hlist.2 e).mpr (hid ▸ he), hid⟩
    · rintro ⟨he, rfl⟩
      exact (hlist.2 e).mp he
  · obtain ⟨entries', answers, hlist', hanswers, hperm⟩ :=
      allByOwner_answers h.ready (Action.ends_run (Store.allByOwner owner) s)
    exact ⟨answers, hanswers, hperm.trans ((hlist'.perm hlist).filter _)⟩

theorem FileStore.tells_of_holds {s : FileStore} (h : s.disk.Holds s.path s.log) : Tells s s.logOf.entries.toList := by
  have hanswers := answers_of_holds h
  refine ⟨s.logOf_indexed.nodup, fun id e => ?_, fun owner => ?_, hanswers.stats⟩
  · rw [Finds, hanswers.getById, Except.ok.injEq, s.logOf_indexed.get?_eq_some, Array.mem_toList_iff]
  · exact ⟨_, hanswers.allByOwner owner, .refl _⟩

/-- Counting succeeds, in a memory store after any calls and in a file store that was opened on any log, after anything that
was asked of it and however the disk failed. The entries are counted that are found under ids, and the owners that are
recorded in them. These are the owners for whom something is listed, and the empty name if it is recorded. -/
theorem stats_count (calls : List Call) (moves : List Move) :
    (let s := (Action.each Call.perform calls MemoryStore.empty).2
     ∃ st, (Store.stats.run s).outcome = .ok st ∧ Counts s st) ∧
    ∀ (path : String) (d : Disk) (opened : FileStore), FileStore.Opens path d opened →
      let s := (Action.each Move.onFile moves opened).2
      ∃ st, (Store.stats.run s).outcome = .ok st ∧ Counts s st := by
  constructor
  · intro s
    obtain ⟨entries, htells⟩ := MemoryStore.Reached.tells ⟨calls, rfl⟩
    exact ⟨_, htells.stats, htells.counts⟩
  · intro path d opened hopens s
    have htells := FileStore.tells_of_holds (hopens.holds_after moves)
    exact ⟨_, htells.stats, htells.counts⟩

/-- An entry as older logs may hold it: its owner is recorded, and has no name. -/
def unnamed : Entry := ⟨"a", "t", some "", none, false⟩

theorem unnamed_stats_count :
    (∃ st, (Store.stats.run (Action.each Call.perform [.add unnamed] MemoryStore.empty).2).outcome = .ok st ∧
      Counts (Action.each Call.perform [.add unnamed] MemoryStore.empty).2 st) ∧
    ∃ opened, FileStore.Opens "log" FileStore.notedDisk opened ∧
      let s := (Action.each Move.onFile [.call (.add unnamed), .compact, .call (.softDelete "u" ["a"])] opened).2
      ∃ st, (Store.stats.run s).outcome = .ok st ∧ Counts s st := by
  obtain ⟨opened, hopened⟩ := FileStore.notedDisk_opens
  exact ⟨(stats_count _ []).1, opened, hopened, (stats_count [] _).2 _ _ _ hopened⟩

def unnamedDisk : Disk := ((Disk.blank []).create ["log"]).setContents 0 (Log.recordLines [unnamed])

theorem unnamedDisk_holds : unnamedDisk.Holds "log" 0 := ⟨["log"], by decide, by decide⟩

theorem unnamedDisk_entries : (Log.ofBytes (Log.recordLines [unnamed])).entries.toList = [unnamed] := by
  have hread : Log.ofBytes (Log.recordLines [unnamed]) = [unnamed].foldl Log.apply Log.empty :=
    Log.ofBytes_append_recordLines .nil [unnamed]
  rw [hread]
  exact Log.entries_foldl_apply [unnamed] Log.empty_indexed (List.nodup_singleton _) fun r _ => by simp [Log.empty]

/-- One owner is counted, and nothing is listed for anybody. -/
theorem unnamedDisk_counts_unlisted : ∃ s, FileStore.Opens "log" unnamedDisk s ∧
    (Store.stats.run s).outcome = .ok ⟨1, 1⟩ ∧ ∀ owner, ((Store.allByOwner owner).run s).outcome = .ok [] := by
  obtain ⟨s, hs⟩ := FileStore.exists_opens unnamedDisk_holds.writable ⟨["log.compact"], by decide, by decide⟩
    (fun _ h => by cases h)
  have hanswers := hs.rewritten.answers
  have hcontent : unnamedDisk.content? "log" = some (Log.recordLines [unnamed]) :=
    Disk.content?_of_holds unnamedDisk_holds
  rw [hcontent, Option.getD_some] at hanswers
  refine ⟨s, hs, ?_, fun owner => ?_⟩
  · rw [hanswers.stats, unnamedDisk_entries]
    rfl
  · rw [hanswers.allByOwner, unnamedDisk_entries]
    refine congrArg Except.ok (List.filter_eq_nil_iff.mpr fun e he howned => ?_)
    rw [List.mem_singleton.mp he, unnamed, Entry.isOwnedBy, Bool.and_eq_true, bne_iff_ne, beq_iff_eq] at howned
    exact howned.1 (Option.some.inj howned.2).symm

end ShortLinks
