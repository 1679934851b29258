import ShortLinks.Proofs.Store.Deletions
import ShortLinks.Proofs.Store.Precise

/-!
# What one deletion changes

A deletion marks the entries that are named and that the requester may delete, and leaves everything else as it was. A
target that was taken is free afterwards if and only if all its live entries have been deleted. The file store appends
one record for each entry that was live until then, in the order in which the ids are first named.
-/

set_option autoImplicit false

namespace ShortLinks

variable {e : Entry} {requester id target : String} {ids : List String}

namespace Entry

theorem canBeDeletedBy_iff : e.canBeDeletedBy requester = true ↔
    requester ≠ "" ∧ (e.owner = none ∨ e.owner = some requester) := by
  simp [canBeDeletedBy]

/-- An entry before and after a deletion: nothing but the mark may differ. -/
structure Marked (requester : String) (ids : List String) (before after : Entry) : Prop where
  id_eq : after.id = before.id
  target_eq : after.target = before.target
  owner_eq : after.owner = before.owner
  correlation_eq : after.correlation = before.correlation
  deleted_iff : after.deleted = true ↔ before.deleted = true ∨
    before.id ∈ ids ∧ requester ≠ "" ∧ (before.owner = none ∨ before.owner = some requester)

def marking (requester : String) (ids : List String) (e : Entry) : Entry :=
  if e.id ∈ ids ∧ e.canBeDeletedBy requester = true then e.markDeleted else e

theorem marked_marking (requester : String) (ids : List String) (e : Entry) :
    Marked requester ids e (e.marking requester ids) := by
  unfold marking
  split
  · next hdel => exact ⟨rfl, rfl, rfl, rfl, fun _ => .inr ⟨hdel.1, canBeDeletedBy_iff.mp hdel.2⟩, fun _ => rfl⟩
  · next hdel =>
    refine ⟨rfl, rfl, rfl, rfl, .inl, ?_⟩
    rintro (hdeleted | ⟨hid, hcan⟩)
    · exact hdeleted
    · exact absurd ⟨hid, canBeDeletedBy_iff.mpr hcan⟩ hdel

theorem isOwnedBy_marking (requester owner : String) (ids : List String) (e : Entry) :
    (e.marking requester ids).isOwnedBy owner = e.isOwnedBy owner := by
  unfold isOwnedBy
  rw [(marked_marking requester ids e).owner_eq]

end Entry

theorem eraseDups_filter (p : String → Bool) (l : List String) : (l.filter p).eraseDups = l.eraseDups.filter p := by
  induction l using eraseDups_induction with
  | hnil => rfl
  | hcons a l ih =>
    rw [List.filter_filter] at ih
    rw [List.eraseDups_cons, List.filter_cons, List.filter_cons, ← ih]
    split
    · rw [List.eraseDups_cons, List.filter_filter]
      simp only [Bool.and_comm]
    · next ha =>
      -- leaving out `a` once more changes nothing where `p` leaves it out
      congr 1
      refine List.filter_congr fun b _ => ?_
      by_cases hb : b = a
      · simp [hb, ha]
      · simp [hb]

theorem filterMap_eraseDups_cons {α : Type} {f g : String → Option α} {first : String} {rest : List String}
    (hother : ∀ other, other ≠ first → g other = f other) (hagain : g first = none) :
    (first :: rest).eraseDups.filterMap f = (f first).toList ++ rest.eraseDups.filterMap g := by
  have hrest : (rest.filter fun b => !b == first).eraseDups.filterMap f = rest.eraseDups.filterMap g := by
    rw [eraseDups_filter, List.filterMap_filter]
    refine List.filterMap_congr fun b _ => ?_
    by_cases hb : b = first
    · simp [hb, hagain]
    · simp [hb, hother b hb]
  rw [List.eraseDups_cons, List.filterMap_cons, hrest]
  cases f first <;> rfl

namespace Contents

variable {c : Contents}

theorem Keyed.deletes_apply (h : c.Keyed) (requester : String) (ids : List String) (id : String) :
    ids.foldl (fun c id => c.delete requester id) c id = (c id).map (Entry.marking requester ids) := by
  rw [Contents.deletes_apply]
  refine Option.map_congr fun e he => ?_
  rw [Entry.marking, h id e he]

theorem liveFor_deletes_iff : (ids.foldl (fun c id => c.delete requester id) c).LiveFor target e ↔
    c.LiveFor target e ∧ ¬ (e.id ∈ ids ∧ e.canBeDeletedBy requester = true) := by
  induction ids generalizing c with
  | nil => simp
  | cons id ids ih =>
    rw [List.foldl_cons, ih, liveFor_delete_iff, List.mem_cons]
    tauto

/-- The entries that a deletion is the first to delete, in the order in which they are first named. -/
def newlyDeleted (c : Contents) (requester : String) (ids : List String) : List Entry :=
  ids.eraseDups.filterMap fun id => (c id).filter fun e => e.canBeDeletedBy requester && !e.deleted

theorem newlyDeleted_cons (c : Contents) (requester id : String) (ids : List String) : c.newlyDeleted requester (id :: ids) =
    ((c id).filter fun e => e.canBeDeletedBy requester && !e.deleted).toList ++
      (c.delete requester id).newlyDeleted requester ids := by
  refine filterMap_eraseDups_cons (fun other hother => by rw [delete_other hother]) ?_
  rw [delete_self, Option.filter_eq_none_iff]
  intro x hx
  obtain ⟨e, -, rfl⟩ := Option.map_eq_some_iff.mp hx
  split
  · simp [Entry.markDeleted]
  · next hcan => simp [hcan]

end Contents

/-- The records that a deletion appends are the entries it is the first to delete, marked. -/
theorem Log.Indexed.tombstones_eq {log : Log} (h : log.Indexed) (requester : String) (ids : List String) :
    log.tombstones requester ids = (Contents.newlyDeleted log.get? requester ids).map Entry.markDeleted := by
  induction ids generalizing log with
  | nil => rfl
  | cons id ids ih =>
    rw [Contents.newlyDeleted_cons, List.map_append]
    unfold tombstones
    cases he : log.get? id with
    | none =>
      rw [Contents.delete_eq_self fun e hx => by rw [he] at hx; cases hx]
      exact ih h
    | some e =>
      dsimp only
      by_cases hdel : e.canBeDeletedBy requester = true ∧ e.deleted = false
      · have hfilter : (e.canBeDeletedBy requester && !e.deleted) = true := by simp [hdel]
        rw [if_pos hfilter, ih (h.apply _), h.get?_tombstone he hdel.1, Option.filter_some, if_pos hfilter]
        rfl
      · have hfilter : ¬ (e.canBeDeletedBy requester && !e.deleted) = true := by simpa using hdel
        rw [if_neg hfilter, ih h, Option.filter_some, if_neg hfilter, Contents.delete_eq_self]
        · rfl
        · intro x hx hcan
          rw [he] at hx
          cases hx
          simpa [hcan] using hdel

section Store

variable {σ : Type} [Store σ] {s s' : σ}

def Finds (s : σ) (id : String) (e : Entry) : Prop := ((Store.getById id).run s).outcome = .ok (some e)

/-- An entry for the target is stored, unless its id is taken. -/
def FreeFor (s : σ) (target : String) : Prop := ∀ e : Entry, e.target = target →
  ((Store.add e).run s).outcome = .ok e.id ∨ ((Store.add e).run s).outcome = .error (.duplicateId e.id)

/-- What a deletion makes of a store. -/
structure Deletes (requester : String) (ids : List String) (s s' : σ) : Prop where
  marks (id : String) : ∃ before after, ((Store.getById id).run s).outcome = .ok before ∧
    ((Store.getById id).run s').outcome = .ok after ∧ Option.Rel (Entry.Marked requester ids) before after
  /-- A target that was taken is free if and only if all its live entries have been deleted. -/
  frees (target : String) : (∃ id e, Finds s id e ∧ e.isLiveFor target = true) →
    (FreeFor s' target ↔ ∀ id e, Finds s id e → e.isLiveFor target = true → ∃ after, Finds s' id after ∧ after.deleted = true)

namespace LawfulStore

variable [LawfulStore σ]

theorem getById_outcome (h : Ready s) (id : String) : ((Store.getById id).run s).outcome = .ok (contents s id) :=
  (getById_ends h (Action.ends_run _ s)).2.1

theorem finds_iff (h : Ready s) : Finds s id e ↔ contents s id = some e := by
  rw [Finds, getById_outcome h, Except.ok.injEq]

theorem freeFor_iff (h : Ready s) : FreeFor s target ↔ ∀ x, ¬ (contents s).LiveFor target x := by
  constructor
  · intro hfree x hx
    rcases (add_ends h (Action.ends_run (Store.add x) s)).2 with ⟨y, -, hr, -⟩ | ⟨hnone, -⟩ | ⟨hnone, -⟩
    · rcases hfree x hx.target_eq with heq | heq <;>
      · rw [hr] at heq
        cases heq
    · exact hnone x (hx.target_eq.symm ▸ hx)
    · exact hnone x (hx.target_eq.symm ▸ hx)
  · rintro hfree e rfl
    rcases (add_ends h (Action.ends_run (Store.add e) s)).2 with ⟨y, hy, -⟩ | ⟨-, -, hr, -⟩ | ⟨-, -, hr, -⟩
    · exact absurd hy (hfree y)
    · exact .inr hr
    · exact .inl hr

theorem softDelete_deletes (h : Ready s) (hends : (Store.softDelete requester ids).Ends s (.ok ()) s') :
    Deletes requester ids s s' := by
  obtain ⟨hready, -, hcontents⟩ := softDelete_ends h hends
  have hmarked : ∀ id, contents s' id = (contents s id).map (Entry.marking requester ids) := fun id => by
    rw [hcontents, (keyed s h).deletes_apply]
  constructor
  case marks =>
    intro id
    refine ⟨_, _, getById_outcome h id, getById_outcome hready id, ?_⟩
    rw [hmarked]
    cases contents s id with
    | none => exact .none
    | some e => exact .some (e.marked_marking requester ids)
  case frees =>
    intro target _
    rw [freeFor_iff hready, hcontents]
    simp only [Contents.liveFor_deletes_iff, finds_iff h, finds_iff hready, hmarked]
    constructor
    · intro hfree id e he hlive
      obtain rfl := keyed s h id e he
      have hdel : e.id ∈ ids ∧ e.canBeDeletedBy requester = true := by
        by_contra hkept
        exact hfree e ⟨⟨he, hlive⟩, hkept⟩
      refine ⟨e.markDeleted, ?_, rfl⟩
      rw [he, Option.map_some, Entry.marking, if_pos hdel]
    · rintro hall e ⟨⟨he, hlive⟩, hkept⟩
      obtain ⟨after, hafter, hdeleted⟩ := hall e.id e he hlive
      rw [he, Option.map_some, Entry.marking, if_neg hkept] at hafter
      cases hafter
      rw [(Contents.isLiveFor_iff.mp hlive).1] at hdeleted
      cases hdeleted

end LawfulStore

end Store

namespace FileStore

variable {s s' : FileStore}

theorem softDelete_appends (h : s.Ready) (hends : (softDelete requester ids).Ends s (.ok ()) s') :
    s'.path = s.path ∧ ∃ content, s.disk.content? s.path = some content ∧
      s'.disk.content? s.path = some (content ++
        Log.recordLines ((s.contents.newlyDeleted requester ids).map Entry.markDeleted)) := by
  have hnoted := (readAll_bind h).mp hends
  have happend := Action.ends_emit_bind.mp hnoted
  have htombstones : s.logOf.tombstones requester ids = (s.contents.newlyDeleted requester ids).map Entry.markDeleted :=
    s.logOf_indexed.tombstones_eq requester ids
  rw [htombstones] at happend
  have hready' := (append_ends h happend).ready
  obtain ⟨d', hput, rfl⟩ := append_ok_iff.mp happend
  obtain ⟨-, -, hcontents⟩ := Disk.append_ends hput
  refine ⟨rfl, _, Disk.content?_of_holds h.holds, ?_⟩
  rw [← hcontents]
  exact Disk.content?_of_holds hready'.holds

theorem softDelete_entries (h : s.Ready) (hends : (softDelete requester ids).Ends s (.ok ()) s') :
    s'.logOf.entries.toList = s.logOf.entries.toList.map (Entry.marking requester ids) := by
  have hextended := softDelete_extended h hends
  have hids : s'.logOf.entries.toList.map Entry.id = s.logOf.entries.toList.map Entry.id := by
    rw [hextended.logOf, s.logOf_indexed.ids_tombstones]
  have hget : s'.logOf.get? = fun id => (s.logOf.get? id).map (Entry.marking requester ids) := by
    rw [hextended.logOf, s.logOf_indexed.tombstones_deletes]
    exact funext (s.logOf_indexed.keyed.deletes_apply requester ids)
  rw [s'.logOf_indexed.entries_eq, hids, hget]
  conv_rhs => rw [s.logOf_indexed.entries_eq]
  rw [List.map_filterMap]

theorem softDelete_listing (h : s.Ready) (hends : (softDelete requester ids).Ends s (.ok ()) s') (owner : String) :
    ∃ before after, ((Store.allByOwner owner).run s).outcome = .ok before ∧
      ((Store.allByOwner owner).run s').outcome = .ok after ∧ List.Forall₂ (Entry.Marked requester ids) before after := by
  refine ⟨_, _, h.answers.allByOwner owner, (softDelete_extended h hends).ready.answers.allByOwner owner, ?_⟩
  have howned : (fun e : Entry => e.isOwnedBy owner) ∘ Entry.marking requester ids = fun e => e.isOwnedBy owner :=
    funext (Entry.isOwnedBy_marking requester owner ids)
  rw [softDelete_entries h hends, List.filter_map, howned, List.forall₂_map_right_iff, List.forall₂_same]
  exact fun e _ => e.marked_marking requester ids

end FileStore

/-- Deleting does not fail, neither in a memory store after any calls nor in a file store that was opened on any log, as
long as its disk does not fail, and it changes what it should and nothing else. In the file store the entries keep
their order, and one record is appended for each entry that was live and no longer is, in the order in which the ids are
first named. -/
theorem softDelete_exactly :
    (∀ s : MemoryStore, s.Reached → ∀ (requester : String) (ids : List String),
      ∃ s', (Store.softDelete requester ids).Ends s (.ok ()) s' ∧ Deletes requester ids s s') ∧
    ∀ s : FileStore, s.Reached → ∀ (requester : String) (ids : List String),
      ∃ s', (Store.softDelete requester ids).Ends s (.ok ()) s' ∧ Deletes requester ids s s' ∧
        (∀ owner, ∃ before after, ((Store.allByOwner owner).run s).outcome = .ok before ∧
          ((Store.allByOwner owner).run s').outcome = .ok after ∧ List.Forall₂ (Entry.Marked requester ids) before after) ∧
        s'.path = s.path ∧ ∃ content, s.disk.content? s.path = some content ∧
          s'.disk.content? s.path = some (content ++
            Log.recordLines ((s.contents.newlyDeleted requester ids).map Entry.markDeleted)) := by
  constructor
  · intro s hs requester ids
    have hends := Action.ends_run (Store.softDelete requester ids) s
    rw [(LawfulStore.softDelete_ends hs.ready hends).2.1] at hends
    exact ⟨_, hends, LawfulStore.softDelete_deletes hs.ready hends⟩
  · intro s hs requester ids
    have hready := hs.ready
    have hends := Action.ends_run (Store.softDelete requester ids) s
    rw [(LawfulStore.softDelete_ends hready hends).2.1] at hends
    exact ⟨_, hends, LawfulStore.softDelete_deletes hready hends, FileStore.softDelete_listing hready.1 hends,
      FileStore.softDelete_appends hready.1 hends⟩

theorem notedDisk_softDelete :
    (∃ s', (Store.softDelete "u" ["b", "c", "b"]).Ends
      (Action.each Call.perform [.add (Entry.create "b" "t" none none)] MemoryStore.empty).2 (.ok ()) s' ∧
      Deletes "u" ["b", "c", "b"]
        (Action.each Call.perform [.add (Entry.create "b" "t" none none)] MemoryStore.empty).2 s') ∧
    ∃ opened, FileStore.Opens "log" FileStore.notedDisk opened ∧
      let s := (Action.each Move.onFile [.call (.add (Entry.create "b" "t" none none)), .compact] opened).2
      ∃ s', (Store.softDelete "u" ["b", "c", "b"]).Ends s (.ok ()) s' ∧ Deletes "u" ["b", "c", "b"] s s' := by
  obtain ⟨opened, hopened⟩ := FileStore.notedDisk_opens
  refine ⟨softDelete_exactly.1 _ ⟨_, rfl⟩ "u" ["b", "c", "b"], opened, hopened, ?_⟩
  obtain ⟨s', hends, hdeletes, -⟩ := softDelete_exactly.2 _
    ⟨"log", _, opened, [.call (.add (Entry.create "b" "t" none none)), .compact], hopened, (fun _ h => by cases h), rfl⟩
    "u" ["b", "c", "b"]
  exact ⟨s', hends, hdeletes⟩

end ShortLinks
