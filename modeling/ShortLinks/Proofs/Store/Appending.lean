import ShortLinks.Proofs.Disk.Frame
import ShortLinks.Proofs.Store.SoftDeletion

/-!
# What calls append

Between two rewritings a log only grows. What a call appends can be told from the contents before and after it: one line
for each entry that is new or newly marked, and nothing else. A call that is refused, or that finds nothing to store or to
delete, leaves the log as it is, and so does one that only looks something up. All this holds whatever the log held.
-/

set_option autoImplicit false

namespace ShortLinks

variable {e x : Entry} {id requester : String} {ids : List String} {batch replies : List Entry}

namespace Contents

variable {c c' : Contents} {call : Call} {r : Except StoreError Reply}

def born (c c' : Contents) (batch : List Entry) : List Entry := batch.filter fun e => (c e.id).isNone && (c' e.id).isSome

/-- The entries under some ids that are deleted now and were not before, in the order in which the ids are first named. -/
def gone (c c' : Contents) (ids : List String) : List Entry :=
  ids.eraseDups.filterMap fun id => (c' id).filter fun e => e.deleted && (c id).any (!·.deleted)

end Contents

def Call.looksUp : Call → Bool
  | .add _ | .createBatch _ | .softDelete .. => false
  | .getById _ | .allByOwner _ | .stats | .ping | .close => true

/-- The entries that a call has stored or marked deleted, told from the contents before and after it. -/
def Call.news (before after : Contents) : Call → List Entry
  | .add e => before.born after [e]
  | .createBatch batch => before.born after batch
  | .softDelete _ ids => before.gone after ids
  | .getById _ | .allByOwner _ | .stats | .ping | .close => []

namespace Contents

variable {c c' : Contents} {call : Call} {r : Except StoreError Reply}

theorem mem_born : e ∈ c.born c' batch ↔ e ∈ batch ∧ c e.id = none ∧ (c' e.id).isSome = true := by
  simp [born]

theorem born_self (c : Contents) (batch : List Entry) : c.born c batch = [] := by
  refine List.filter_eq_nil_iff.mpr fun e _ => ?_
  cases c e.id <;> simp

theorem gone_self (c : Contents) (ids : List String) : c.gone c ids = [] := by
  refine List.filterMap_eq_nil_iff.mpr fun id _ => ?_
  rw [Option.filter_eq_none_iff]
  intro x hx
  cases hdeleted : x.deleted <;> simp [hx, hdeleted]

theorem Answers.other (h : Answers c batch replies c') (hid : id ∉ batch.map Entry.id) : c' id = c id := by
  induction h with
  | nil => rfl
  | known _ _ ih => exact ih fun hmem => hid (List.mem_cons_of_mem _ hmem)
  | fresh _ _ _ ih =>
    rw [ih fun hmem => hid (List.mem_cons_of_mem _ hmem), store_other]
    rintro rfl
    exact hid List.mem_cons_self

theorem Answers.origin (h : Answers c batch replies c') (hx : c' id = some x) :
    c id = some x ∨ x ∈ batch ∧ x.id = id ∧ c id = none := by
  induction h with
  | nil => exact .inl hx
  | known _ _ ih =>
    rcases ih hx with hold | ⟨hmem, hid, hfree⟩
    · exact .inl hold
    · exact .inr ⟨List.mem_cons_of_mem _ hmem, hid, hfree⟩
  | @fresh c c' item rest answers _ hfree _ ih =>
    rcases ih hx with hold | ⟨hmem, hid, hnone⟩
    · by_cases hself : id = item.id
      · rw [hself, store_self] at hold
        cases hold
        exact .inr ⟨List.mem_cons_self, hself.symm, hself ▸ hfree⟩
      · rw [store_other hself] at hold
        exact .inl hold
    · refine .inr ⟨List.mem_cons_of_mem _ hmem, hid, ?_⟩
      by_cases hself : id = item.id
      · rw [hself, hfree]
      · rw [store_other hself] at hnone
        exact hnone

theorem Answers.mem_born_iff (h : Answers c batch replies c')
    (hfree : firstTaken? (fun id => (c id).isSome) batch = none) :
    e ∈ c.born c' batch ↔ c' e.id = some e ∧ c e.id ≠ some e := by
  obtain ⟨hnodup, -⟩ := firstTaken?_eq_none_iff.mp hfree
  rw [mem_born]
  constructor
  · rintro ⟨hmem, hnone, hsome⟩
    obtain ⟨x, hx⟩ := Option.isSome_iff_exists.mp hsome
    rcases h.origin hx with hold | ⟨hxmem, hid, -⟩
    · rw [hnone] at hold
      cases hold
    · obtain rfl := List.inj_on_of_nodup_map hnodup hxmem hmem hid
      exact ⟨hx, by rw [hnone]; exact nofun⟩
  · rintro ⟨hx, hne⟩
    rcases h.origin hx with hold | ⟨hmem, -, hnone⟩
    · exact absurd hold hne
    · exact ⟨hmem, hnone, Option.isSome_iff_exists.mpr ⟨e, hx⟩⟩

theorem mem_newlyDeleted : x ∈ c.newlyDeleted requester ids ↔
    ∃ id ∈ ids, c id = some x ∧ x.canBeDeletedBy requester = true ∧ x.deleted = false := by
  simp [newlyDeleted, Option.filter_eq_some_iff]

theorem Keyed.gone_deletes (h : c.Keyed) (requester : String) (ids : List String) :
    c.gone (ids.foldl (fun c id => c.delete requester id) c) ids =
      (c.newlyDeleted requester ids).map Entry.markDeleted := by
  unfold gone newlyDeleted
  rw [List.map_filterMap]
  refine List.filterMap_congr fun id hid => ?_
  rw [h.deletes_apply]
  cases hx : c id with
  | none => rfl
  | some x =>
    have hnamed : x.id ∈ ids := h id x hx ▸ List.mem_eraseDups.mp hid
    rw [Option.map_some, Entry.marking]
    by_cases hcan : x.canBeDeletedBy requester = true
    · rw [if_pos ⟨hnamed, hcan⟩]
      cases hlive : x.deleted <;> simp [Option.filter, hcan, hlive, Entry.markDeleted]
    · rw [if_neg fun hdel => hcan hdel.2]
      cases hlive : x.deleted <;> simp [Option.filter, hcan, hlive]

theorem Keyed.mem_gone_iff (h : c.Keyed) : e ∈ c.gone (ids.foldl (fun c id => c.delete requester id) c) ids ↔
    ids.foldl (fun c id => c.delete requester id) c e.id = some e ∧ c e.id ≠ some e := by
  rw [h.gone_deletes, List.mem_map, h.deletes_apply, Option.map_eq_some_iff]
  constructor
  · rintro ⟨x, hx, rfl⟩
    obtain ⟨id, hid, hfound, hcan, hlive⟩ := mem_newlyDeleted.mp hx
    obtain rfl := h id x hfound
    refine ⟨⟨x, hfound, if_pos ⟨hid, hcan⟩⟩, fun hsame => ?_⟩
    have heq : x = x.markDeleted := Option.some.inj (hfound.symm.trans hsame)
    rw [heq] at hlive
    cases hlive
  · rintro ⟨⟨x, hfound, hmarked⟩, hne⟩
    unfold Entry.marking at hmarked
    split at hmarked
    · next hdel =>
      have hlive : x.deleted = false := by
        cases hdeleted : x.deleted with
        | false => rfl
        | true => exact absurd ((markDeleted_of_deleted hdeleted).symm.trans hmarked ▸ hfound) hne
      exact ⟨x, mem_newlyDeleted.mpr ⟨x.id, hdel.1, h _ x hfound ▸ hfound, hdel.2, hlive⟩, hmarked⟩
    · exact absurd (hmarked ▸ hfound) hne

theorem news_self (c : Contents) (call : Call) : call.news c c = [] := by
  cases call with
  | add e => exact born_self c [e]
  | createBatch batch => exact born_self c batch
  | softDelete requester ids => exact gone_self c ids
  | getById | allByOwner | stats | ping | close => rfl

/-- The entries that a call has stored or marked are those that are other than before. -/
theorem Step.mem_news_iff (h : c.Step call r c') (hkeyed : c.Keyed) :
    e ∈ call.news c c' ↔ c' e.id = some e ∧ c e.id ≠ some e := by
  have hsame : (c e.id = some e ∧ c e.id ≠ some e) ↔ e ∈ ([] : List Entry) := by simp
  cases h with
  | conflict | taken | refused | found | listed | counted | pinged | closed => rw [news_self, hsame]
  | @added x hfree hid =>
    have hanswers : Answers c [x] [x] (c.store x) := .fresh hfree hid (.nil _)
    exact hanswers.mem_born_iff (firstTaken?_eq_none_iff.mpr ⟨List.nodup_singleton _, by simp [hid]⟩)
  | stored hfree hanswers => exact hanswers.mem_born_iff hfree
  | deleted requester ids => exact hkeyed.mem_gone_iff

theorem Step.nodup_news (h : c.Step call r c') (hkeyed : c.Keyed) : (call.news c c').Nodup := by
  cases h with
  | conflict | taken | refused | found | listed | counted | pinged | closed =>
    rw [news_self]
    exact List.nodup_nil
  | @added x hfree hid =>
    show (c.born (c.store x) [x]).Nodup
    exact (List.nodup_singleton x).filter _
  | stored hfree _ => exact (List.Nodup.of_map _ (firstTaken?_eq_none_iff.mp hfree).1).filter _
  | deleted requester ids =>
    refine (nodup_eraseDups ids).filterMap fun id id' x hx hx' => ?_
    have hkeyed' : ∀ id x, ids.foldl (fun c id => c.delete requester id) c id = some x → x.id = id := by
      intro id x hfound
      rw [hkeyed.deletes_apply, Option.map_eq_some_iff] at hfound
      obtain ⟨y, hy, rfl⟩ := hfound
      exact (Entry.marked_marking requester ids y).id_eq.trans (hkeyed id y hy)
    exact (hkeyed' id x (Option.filter_eq_some_iff.mp hx).1).symm.trans (hkeyed' id' x (Option.filter_eq_some_iff.mp hx').1)

theorem Step.eq_of_refused (h : c.Step call r c') (hrefused : (∃ refusal, r = .error refusal) ∨ call.looksUp = true) :
    c' = c := by
  cases h with
  | conflict | taken | refused | found | listed | counted | pinged | closed => rfl
  | added | stored | deleted => simp [Call.looksUp] at hrefused

end Contents

namespace Log

variable {log : Log}

theorem Indexed.step_of_refusal? {refusal : StoreError} (h : log.Indexed) (hrefusal : log.refusal? e = some refusal) :
    Contents.Step log.get? (.add e) (.error refusal) log.get? := by
  unfold refusal? at hrefusal
  rw [h.contains_eq] at hrefusal
  cases hlive : log.liveFor? e.target with
  | some x =>
    rw [hlive] at hrefusal
    cases hrefusal
    exact .conflict (h.liveFor?_eq_some hlive)
  | none =>
    rw [hlive] at hrefusal
    dsimp only at hrefusal
    split at hrefusal
    · next hknown =>
      cases hrefusal
      exact .taken (h.liveFor?_eq_none hlive) (Option.isSome_iff_ne_none.mp hknown)
    · cases hrefusal

theorem Indexed.step_of_refusal?_eq_none (h : log.Indexed) (hrefusal : log.refusal? e = none) :
    Contents.Step log.get? (.add e) (.ok (.id e.id)) (log.apply e).get? := by
  have hnone := h.get?_eq_none_of_refusal?_eq_none hrefusal
  rw [h.get?_apply_fresh hnone]
  refine .added (h.liveFor?_eq_none ?_) hnone
  unfold refusal? at hrefusal
  cases hlive : log.liveFor? e.target with
  | some x =>
    rw [hlive] at hrefusal
    cases hrefusal
  | none => rfl

theorem Indexed.storeItems_born (h : log.Indexed)
    (hfree : firstTaken? (fun id => (log.get? id).isSome) batch = none) :
    (log.storeItems batch).2 = Contents.born log.get? ((log.storeItems batch).2.foldl Log.apply log).get? batch := by
  induction batch generalizing log with
  | nil => rfl
  | cons item rest ih =>
    obtain ⟨hid, hrest⟩ := firstTaken?_cons_eq_none hfree
    have hnone : log.get? item.id = none := by simpa using hid
    obtain ⟨hnodup, -⟩ := firstTaken?_eq_none_iff.mp hfree
    have hother := (List.nodup_cons.mp hnodup).1
    unfold Contents.born
    rw [List.filter_cons, hnone]
    unfold storeItems
    cases hlive : log.liveFor? item.target with
    | some x =>
      have hfree' : firstTaken? (fun id => (log.get? id).isSome) rest = none :=
        firstTaken?_eq_none_of_le (fun id hid => by simp [hid]) hrest
      have hskipped := (h.storeItems_answers hfree').other hother
      rw [hnone] at hskipped
      dsimp only
      rw [hskipped]
      exact ih h hfree'
    | none =>
      have hfree' := h.firstTaken?_apply hnone hrest
      have hstored := ((h.apply item).storeItems_answers hfree').other hother
      rw [h.get?_apply_fresh hnone, Contents.store_self] at hstored
      dsimp only
      rw [List.foldl_cons, hstored]
      refine congrArg (item :: ·) ((ih (h.apply item) hfree').trans (List.filter_congr fun e he => ?_))
      have hne : e.id ≠ item.id := fun heq => hother (heq ▸ List.mem_map_of_mem he)
      rw [h.get?_apply_fresh hnone, Contents.store_other hne]

theorem Indexed.records_eq_news (h : log.Indexed) (call : Call) :
    call.records log = call.news log.get? ((call.records log).foldl Log.apply log).get? := by
  cases call with
  | add e =>
    cases hrefusal : log.refusal? e with
    | some refusal =>
      rw [records_add_of_refused hrefusal]
      exact (Contents.news_self log.get? (.add e)).symm
    | none =>
      have hnone := h.get?_eq_none_of_refusal?_eq_none hrefusal
      rw [records_add hrefusal, List.foldl_cons, List.foldl_nil, h.get?_apply_fresh hnone]
      simp [Call.news, Contents.born, hnone, Contents.store_self]
  | createBatch batch =>
    cases htaken : firstTaken? log.contains batch with
    | some id =>
      rw [records_createBatch_of_taken htaken]
      exact (Contents.news_self log.get? (.createBatch batch)).symm
    | none =>
      rw [records_createBatch htaken]
      rw [h.contains_eq] at htaken
      exact h.storeItems_born htaken
  | softDelete requester ids =>
    show log.tombstones requester ids = Contents.gone _ ((log.tombstones requester ids).foldl Log.apply log).get? ids
    rw [h.tombstones_deletes, h.keyed.gone_deletes, h.tombstones_eq]
  | getById | allByOwner | stats | ping | close => rfl

end Log

namespace FileStore

variable {s s' : FileStore} {call : Call} {r : Except StoreError Reply}

theorem append_pure_ok {α : Type} {records : List Entry} {y : α} {r : Except StoreError α}
    (h : (do append records; pure y : Action StoreError FileStore α).Ends s r s')
    (hio : ∀ cause, r ≠ .error (.io cause)) : r = .ok y := by
  rcases Action.ends_bind.mp h with ⟨_, s₁, -, hpure⟩ | ⟨e, happend, rfl⟩
  · exact (Action.ends_pure.mp hpure).1
  · obtain ⟨-, cause, heq⟩ := append_fails happend
    cases heq
    exact absurd rfl (hio cause)

theorem map_ne_io {α β : Type} {r : Except StoreError α} {f : α → β} (hio : ∀ cause, r.map f ≠ .error (.io cause))
    (cause : IoError) : r ≠ .error (.io cause) := by
  rintro rfl
  exact hio cause rfl

/-- Whatever the log holds, a call does what is asked of stores, as if its records were taken in where the log ends. -/
theorem step_of_holds (h : s.disk.Holds s.path s.log) (hends : call.perform.Ends s r s')
    (hio : ∀ cause, r ≠ .error (.io cause)) :
    s.contents.Step call r ((call.records s.logOf).foldl Log.apply s.logOf).get? := by
  have hindexed := s.logOf_indexed
  have hread : ∀ {α : Type} {f : Log → Action StoreError FileStore α} {r : Except StoreError α},
      (readAll >>= f).Ends s r s' ↔ (f s.logOf).Ends s r s' := (readAll_of_holds h).bind_iff
  cases call with
  | add e =>
    obtain ⟨r₀, hadd, rfl⟩ := Action.ends_map.mp hends
    have hrest := hread.mp hadd
    cases hrefusal : s.logOf.refusal? e with
    | some refusal =>
      rw [hrefusal] at hrest
      rw [Log.records_add_of_refused hrefusal, (Action.ends_fail.mp hrest).1]
      exact hindexed.step_of_refusal? hrefusal
    | none =>
      rw [hrefusal] at hrest
      rw [append_pure_ok hrest (map_ne_io hio), Log.records_add hrefusal]
      exact hindexed.step_of_refusal?_eq_none hrefusal
  | createBatch batch =>
    obtain ⟨r₀, hbatch, rfl⟩ := Action.ends_map.mp hends
    have hrest := hread.mp hbatch
    cases htaken : firstTaken? s.logOf.contains batch with
    | some id =>
      rw [htaken] at hrest
      rw [Log.records_createBatch_of_taken htaken, (Action.ends_fail.mp hrest).1]
      rw [hindexed.contains_eq] at htaken
      exact .refused htaken
    | none =>
      rw [htaken] at hrest
      rw [append_pure_ok hrest (map_ne_io hio), Log.records_createBatch htaken]
      rw [hindexed.contains_eq] at htaken
      exact .stored htaken (hindexed.storeItems_answers htaken)
  | softDelete requester ids =>
    obtain ⟨r₀, hdelete, rfl⟩ := Action.ends_map.mp hends
    have hnoted := hread.mp hdelete
    have happend := Action.ends_emit_bind.mp hnoted
    cases r₀ with
    | ok done =>
      show s.contents.Step _ _ ((s.logOf.tombstones requester ids).foldl Log.apply s.logOf).get?
      rw [hindexed.tombstones_deletes]
      exact .deleted requester ids
    | error e =>
      obtain ⟨-, cause, heq⟩ := append_fails happend
      cases heq
      exact absurd rfl (hio cause)
  | getById id =>
    obtain ⟨r₀, hget, rfl⟩ := Action.ends_map.mp hends
    have hpure := hread.mp hget
    rw [(Action.ends_pure.mp hpure).1]
    exact .found id
  | allByOwner owner =>
    obtain ⟨r₀, hlist, rfl⟩ := Action.ends_map.mp hends
    have hpure := hread.mp hlist
    rw [(Action.ends_pure.mp hpure).1]
    exact .listed owner hindexed.lists
  | stats =>
    obtain ⟨r₀, hcount, rfl⟩ := Action.ends_map.mp hends
    have hpure := hread.mp hcount
    rw [(Action.ends_pure.mp hpure).1]
    exact .counted hindexed.lists
  | ping =>
    obtain ⟨r₀, hping, rfl⟩ := Action.ends_map.mp hends
    have hdisk := Action.ends_state_bind.mp hping
    obtain ⟨d', hinspect, -⟩ := Action.ends_onPart.mp hdisk
    obtain ⟨r₁, -, rfl⟩ := Action.ends_mapError.mp hinspect
    cases r₁ with
    | ok done => exact .pinged
    | error cause => exact absurd rfl (hio cause)
  | close =>
    obtain ⟨r₀, hclose, rfl⟩ := Action.ends_map.mp hends
    rw [(Action.ends_pure.mp hclose).1]
    exact .closed

/-- What a call that the disk carries out does to the disk: its records stand at the end of the log. -/
theorem records_appended (h : s.disk.Holds s.path s.log) (hends : call.perform.Ends s r s')
    (hio : ∀ cause, r ≠ .error (.io cause)) : (append (call.records s.logOf)).Ends s (.ok ()) s' := by
  obtain ⟨done, happend, hfails⟩ := perform_writes h hends
  cases done with
  | ok done => exact happend
  | error e =>
    obtain ⟨-, cause, heq⟩ := append_fails happend
    cases heq
    exact absurd (hfails _ rfl) (hio cause)

/-- What a call leaves of a store whose log holds some bytes, where the contents that it is to leave are given. -/
structure Appends (s : FileStore) (call : Call) (content : Bytes) (after : Contents) (s' : FileStore) : Prop where
  /-- The bytes are still there, and behind them one line for each entry that is stored or marked. -/
  content_eq : s'.disk.content? s.path = some (content ++ Log.recordLines (call.news s.contents after))
  lines : Bytes.lines (Log.recordLines (call.news s.contents after)) =
    (call.news s.contents after).map fun e => Record.encode e ++ [10]
  news_iff (e : Entry) : e ∈ call.news s.contents after ↔ after e.id = some e ∧ s.contents e.id ≠ some e
  nodup : (call.news s.contents after).Nodup
  unchanged : call.news s.contents after = [] → s' = s
  path_eq : s'.path = s.path
  log_eq : s'.log = s.log
  nodes_eq : s'.disk.nodes = s.disk.nodes
  elsewhere (n : Nat) : n ≠ s.log → s'.disk.contents n = s.disk.contents n
  /-- Where the last line was ended, the store holds what it is to hold. -/
  read : Bytes.Terminated content → s'.contents = after

theorem appends_of_step {content : Bytes} {after : Contents} (h : s.disk.Holds s.path s.log)
    (hcontent : s.disk.contents s.log = content) (hstep : s.contents.Step call r after)
    (hafter : after = ((call.records s.logOf).foldl Log.apply s.logOf).get?)
    (happend : (append (call.records s.logOf)).Ends s (.ok ()) s') : s.Appends call content after s' := by
  have hrecords : call.records s.logOf = call.news s.contents after := by
    rw [hafter]
    exact s.logOf_indexed.records_eq_news call
  obtain ⟨d', hput, hs'⟩ := append_ok_iff.mp happend
  obtain ⟨hlater, hnodes, hcontents⟩ := Disk.append_ends hput
  rw [hcontent] at hcontents
  have hholds : d'.Holds s.path s.log := h.of_nodes_eq hlater hnodes
  refine ⟨?_, ?_, fun e => hstep.mem_news_iff s.logOf_indexed.keyed, hstep.nodup_news s.logOf_indexed.keyed, fun hnone => ?_,
    by rw [hs'], by rw [hs'], by rw [hs']; exact hnodes, fun n hn => ?_, fun hended => ?_⟩
  · rw [hs', ← hrecords, ← hcontents]
    exact Disk.content?_of_holds hholds
  · exact Log.lines_recordLines _
  · rw [hrecords, hnone] at happend
    exact (happend.unique (append_nil s)).2
  · rw [hs']
    exact (Disk.append_elsewhere hput).1 n hn
  · rw [hafter, hs']
    show (Log.ofBytes (d'.contents s.log)).get? = _
    rw [hcontents, Log.ofBytes_append_recordLines hended, logOf, hcontent]

/-- Whatever bytes the log of an open store holds, a call that the disk carries out does what is asked of stores, leaves
these bytes where they are, and puts behind them one line for each entry that it stores or marks deleted. A call that is
refused or only looks something up leaves the store as it is. -/
theorem call_appends (h : s.disk.Holds s.path s.log) (hends : call.perform.Ends s r s')
    (hio : ∀ cause, r ≠ .error (.io cause)) :
    ∃ content after, s.disk.content? s.path = some content ∧ s.contents.Step call r after ∧
      s.Appends call content after s' ∧ ((∃ refusal, r = .error refusal) ∨ call.looksUp = true → s' = s) := by
  have hstep := step_of_holds h hends hio
  have happends := appends_of_step h rfl hstep rfl (records_appended h hends hio)
  refine ⟨_, _, Disk.content?_of_holds h, hstep, happends, fun hrefused => happends.unchanged ?_⟩
  rw [hstep.eq_of_refused hrefused]
  exact Contents.news_self _ call

def ragged : FileStore := ⟨"log", 0, ((Disk.blank []).create ["log"]).setContents 0 [120]⟩

theorem ragged_holds : ragged.disk.Holds ragged.path ragged.log := ⟨["log"], by decide, by decide⟩

theorem ragged_logOf : ragged.logOf = { Log.empty with unparsed := [[120]] } := rfl

theorem ragged_add : ∃ s', (Call.add (Entry.create "a" "t" none none)).perform.Ends ragged (.ok (.id "a")) s' := by
  have hfree : ragged.logOf.refusal? (Entry.create "a" "t" none none) = none := by
    rw [ragged_logOf]
    simp [Log.refusal?, Log.liveFor?, Log.contains, Log.empty]
  have hsteady : ragged.disk.Steady := fun _ h => by cases h
  obtain ⟨s', happend⟩ := append_of_steady hsteady [Entry.create "a" "t" none none]
  have hadd : (Store.add (Entry.create "a" "t" none none)).Ends ragged (.ok "a") s' := by
    refine (readAll_of_holds ragged_holds).bind_iff.mpr ?_
    rw [hfree]
    exact happend.bind (Action.ends_pure.mpr ⟨rfl, rfl⟩)
  exact ⟨s', Action.ends_map.mpr ⟨_, hadd, rfl⟩⟩

theorem ragged_appends : ∃ s' content after,
    (Call.add (Entry.create "a" "t" none none)).perform.Ends ragged (.ok (.id "a")) s' ∧
    ragged.disk.content? "log" = some content ∧
    ragged.contents.Step (.add (Entry.create "a" "t" none none)) (.ok (.id "a")) after ∧
    ragged.Appends (.add (Entry.create "a" "t" none none)) content after s' := by
  obtain ⟨s', hends⟩ := ragged_add
  obtain ⟨content, after, hcontent, hstep, happends, -⟩ := call_appends ragged_holds hends nofun
  exact ⟨s', content, after, hends, hcontent, hstep, happends⟩

end FileStore
end ShortLinks
