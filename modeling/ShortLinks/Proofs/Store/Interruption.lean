import ShortLinks.Proofs.Log.Torn
import ShortLinks.Proofs.Store.Compaction
import ShortLinks.Proofs.Store.Simulation

/-!
# Adding after failed writes

A write that fails may have put any part of its records into the log, and the store goes on with what is there. It
never looks at how its log ends, so the next record is written behind a torn one, on the same line. An add that
succeeds has stored its entry exactly if the log ended with a whole line before it.
-/

set_option autoImplicit false

namespace ShortLinks.FileStore

variable {s s' : FileStore} {e : Entry} {id : String}

/-- A store whose path still leads to its log, however often a write to it was interrupted. -/
structure Standing (s : FileStore) : Prop where
  holds : s.disk.Holds s.path s.log
  frayed : ∃ ended torn, Log.Frayed (s.disk.contents s.log) ended torn

theorem Ready.standing (h : s.Ready) : s.Standing :=
  ⟨h.holds, _, [], (List.append_nil _).symm, h.terminated, .nil⟩

theorem readAll_maintains : readAll.Maintains Standing :=
  Action.maintains_of_state_eq fun _ h => (readAll_of_holds h.holds).2

theorem append_maintains (records : List Entry) : (append records).Maintains Standing := by
  rintro s ⟨hholds, ended, torn, hfrayed⟩
  obtain ⟨r, d', hput, -, hs'⟩ := append_iff.mp (Action.ends_run (append records) s)
  obtain ⟨hlater, hnodes, k, hcontents⟩ := Disk.append_leaves hput
  rw [hs']
  -- However the write ended, its bytes are there up to some length.
  refine ⟨hholds.of_nodes_eq hlater hnodes, ?_⟩
  show ∃ ended torn, Log.Frayed (d'.contents s.log) ended torn
  rw [hcontents]
  exact hfrayed.append_take records k

theorem perform_maintains (call : Call) : (call.perform : Action StoreError FileStore Reply).Maintains Standing := by
  cases call with
  | add e =>
    refine Action.Maintains.map (readAll_maintains.bind fun log => ?_) _
    cases log.refusal? e with
    | some refusal => exact Action.maintains_fail _ _
    | none => exact (append_maintains [e]).bind fun _ => Action.maintains_pure _ _
  | createBatch batch =>
    refine Action.Maintains.map (readAll_maintains.bind fun log => ?_) _
    cases firstTaken? log.contains batch with
    | some id => exact Action.maintains_fail _ _
    | none => exact (append_maintains _).bind fun _ => Action.maintains_pure _ _
  | softDelete requester ids =>
    refine Action.Maintains.map (readAll_maintains.bind fun log => ?_) _
    exact Action.Maintains.bind (Action.maintains_of_state_eq fun _ _ => rfl) fun _ => append_maintains _
  | getById | allByOwner | stats =>
    exact Action.Maintains.map (readAll_maintains.bind fun _ => Action.maintains_pure _ _) _
  | ping => exact Action.Maintains.map (Action.maintains_of_state_eq fun s _ => ping_state s) _
  | close => exact Action.maintains_of_state_eq fun _ _ => rfl

/-- The disk fails calls at most: the log is written anew without a failure wherever it is. -/
def OnlyCallsFail (s : FileStore) (moves : List Move) : Prop :=
  ∀ p ∈ moves.zip (Action.each Move.onFile moves s).1, ∀ cause, p.2 = .error (.io cause) → ∃ call, p.1 = .call call

theorem Standing.move (h : s.Standing) (move : Move)
    (hfails : ∀ cause, (move.onFile.run s).outcome = .error (.io cause) → ∃ call, move = .call call) :
    (move.onFile.run s).state.Standing := by
  have hio : (∀ call, move ≠ .call call) → ∀ cause, (move.onFile.run s).outcome ≠ .error (.io cause) := by
    intro hrewrites cause heq
    obtain ⟨call, hcall⟩ := hfails cause heq
    exact hrewrites call hcall
  cases move with
  | call call => exact perform_maintains call s h
  | compact => exact (compact_of_ne_io (hio nofun)).2.ready.standing
  | reopen => exact (reopen_of_ne_io (hio nofun)).2.ready.standing

theorem Standing.moves (h : s.Standing) (moves : List Move) (hfails : s.OnlyCallsFail moves) :
    (Action.each Move.onFile moves s).2.Standing := by
  induction moves generalizing s with
  | nil => exact h
  | cons move moves ih =>
    have hnext := h.move move fun cause heq => hfails (move, _) List.mem_cons_self cause heq
    exact ih hnext fun p hp => hfails p (List.mem_cons_of_mem _ hp)

/-- An add that succeeds has written its record where the log ended, for an id that was free. -/
structure Put (s : FileStore) (e : Entry) (s' : FileStore) : Prop where
  fresh : s.logOf.get? e.id = none
  holds : s'.disk.Holds s'.path s'.log
  content : s'.disk.contents s'.log = s.disk.contents s.log ++ Log.recordLine e

theorem Standing.add_ok (h : s.Standing) (hadd : (Store.add e).Ends s (.ok id) s') : id = e.id ∧ s.Put e s' := by
  have hrest := (readAll_of_holds h.holds).bind_iff.mp hadd
  cases hrefusal : s.logOf.refusal? e with
  | some refusal =>
    rw [hrefusal] at hrest
    cases (Action.ends_fail.mp hrest).1
  | none =>
    rw [hrefusal] at hrest
    obtain ⟨done, s₁, happend, hpure⟩ := Action.ends_bind_ok.mp hrest
    obtain ⟨hid, rfl⟩ := Action.ends_pure.mp hpure
    cases hid
    obtain ⟨d', hput, rfl⟩ := append_ok_iff.mp happend
    obtain ⟨hlater, hnodes, hcontents⟩ := Disk.append_ends hput
    have hfree := s.logOf_indexed.get?_eq_none_of_refusal?_eq_none hrefusal
    refine ⟨rfl, hfree, h.holds.of_nodes_eq hlater hnodes, ?_⟩
    show d'.contents s.log = _
    rw [hcontents, Log.recordLines_singleton]

/-- What an add should leave: its entry is found, and all that was found before it is found unchanged. -/
structure Recorded (before : FileStore) (e : Entry) (after : FileStore) : Prop where
  found : ((Store.getById e.id).run after).outcome = .ok (some e)
  kept (id : String) (x : Entry) : ((Store.getById id).run before).outcome = .ok (some x) →
    ((Store.getById id).run after).outcome = .ok (some x)

variable {ended torn : Bytes}

theorem Put.recorded (h : s.Put e s') (hs : s.Standing) (hended : Bytes.Terminated (s.disk.contents s.log)) :
    s.Recorded e s' := by
  have hlog : s'.logOf.get? = Contents.store s.logOf.get? e := by
    have happend : s'.logOf = s.logOf.apply e := by
      unfold logOf
      rw [h.content, ← Log.recordLines_singleton, Log.ofBytes_append_recordLines hended]
      rfl
    rw [happend, s.logOf_indexed.get?_apply_fresh h.fresh]
  constructor
  · rw [(answers_of_holds h.holds).getById, hlog, Contents.store_self]
  · intro id x hx
    rw [(answers_of_holds hs.holds).getById] at hx
    rw [(answers_of_holds h.holds).getById, hlog, Contents.store_other]
    · exact hx
    · rintro rfl
      rw [h.fresh] at hx
      cases hx

/-- Behind a torn record the new one is lost, and with it whatever was read of the torn one. -/
theorem Put.getById_of_torn (h : s.Put e s') (hfrayed : Log.Frayed (s.disk.contents s.log) ended torn) (htorn : torn ≠ [])
    (id : String) : ((Store.getById id).run s').outcome = .ok ((Log.ofBytes ended).get? id) := by
  rw [(answers_of_holds h.holds).getById, logOf, h.content, hfrayed.get?_append_recordLine htorn]

theorem Put.not_recorded (h : s.Put e s') (hfrayed : Log.Frayed (s.disk.contents s.log) ended torn) (htorn : torn ≠ []) :
    ((Store.getById e.id).run s').outcome = .ok none ∧ ¬ s.Recorded e s' := by
  have hnone : ((Store.getById e.id).run s').outcome = .ok none := by
    rw [h.getById_of_torn hfrayed htorn, hfrayed.get?_ended_eq_none h.fresh]
  refine ⟨hnone, fun hrecorded => ?_⟩
  have hfound := hrecorded.found
  rw [hnone] at hfound
  cases hfound

/-- A disk that is full just before the end of the first line that is written to it. -/
def fullDisk : Disk :=
  { Disk.blank [] with tears := [some ⟨(Record.encode (Entry.create "b" "s" none none)).length, .system 28⟩] }

theorem fullDisk_opens : ∃ s, Opens "log" fullDisk s ∧ s.disk.tears = fullDisk.tears ∧ s.disk.contents s.log = [] :=
  ⟨⟨"log", 1, ((openLog "log").run fullDisk).state⟩, ⟨⟨rfl, rfl⟩, rfl⟩, rfl, rfl⟩

theorem add_of_free (h : s.disk.Holds s.path s.log) (hfree : s.logOf.refusal? e = none) {r : Except StoreError String} :
    (Store.add e).Ends s r s' ↔ (do append [e]; pure e.id : Action StoreError FileStore String).Ends s r s' := by
  refine (readAll_of_holds h).bind_iff.trans ?_
  rw [hfree]

theorem append_of_torn {tear : Tear} {tears : List (Option Tear)} (h : s.disk.tears = some tear :: tears) (e : Entry) :
    ∃ s', (append [e]).Ends s (.error (.io tear.cause)) s' ∧ s'.disk.tears = tears ∧
      s'.disk.contents s'.log = s.disk.contents s.log ++ (Log.recordLine e).take tear.written := by
  have hbytes : Log.recordLines [e] ≠ [] := by simp [Log.recordLines, Log.recordLine]
  have hput := Disk.append_torn (n := s.log) h hbytes
  refine ⟨_, append_iff.mpr ⟨_, _, hput, rfl, rfl⟩, rfl, ?_⟩
  rw [Log.recordLines_singleton]
  exact if_pos rfl

theorem fullDisk_adds : ∃ s s₁ s₂, Opens "log" fullDisk s ∧
    (Store.add (Entry.create "b" "s" none none)).Ends s (.error (.io (.system 28))) s₁ ∧ s₁.Standing ∧
    s₁.disk.contents s₁.log = Record.encode (Entry.create "b" "s" none none) ∧
    s₁.logOf = Log.empty.apply (Entry.create "b" "s" none none) ∧
    (Store.add (Entry.create "c" "r" none none)).Ends s₁ (.ok "c") s₂ := by
  obtain ⟨s, hs, htears, hempty⟩ := fullDisk_opens
  have hready := hs.rewritten.ready
  have hlog : s.logOf = Log.empty := by
    unfold logOf
    rw [hempty]
    rfl
  have hfree : s.logOf.refusal? (Entry.create "b" "s" none none) = none := by
    rw [hlog]
    simp [Log.refusal?, Log.liveFor?, Log.contains, Log.empty]
  -- The disk fails the write of the first entry, and none after it.
  obtain ⟨s₁, happend, htears₁, hcontent⟩ := append_of_torn htears (Entry.create "b" "s" none none)
  have hstanding : s₁.Standing := happend.2 ▸ append_maintains _ s hready.standing
  rw [hempty, List.nil_append, Log.recordLine, List.take_left] at hcontent
  have hlog₁ : s₁.logOf = Log.empty.apply (Entry.create "b" "s" none none) := by
    unfold logOf
    rw [hcontent, ← List.nil_append (Record.encode _), Log.ofBytes_append_encode .nil]
    rfl
  have hfree₁ : s₁.logOf.refusal? (Entry.create "c" "r" none none) = none := by
    rw [hlog₁]
    simp [Log.refusal?, Log.liveFor?, Log.contains, Log.apply, Log.empty, Entry.create, Entry.isLiveFor]
  have hsteady : s₁.disk.Steady := by
    intro tear htear
    rw [htears₁] at htear
    cases htear
  obtain ⟨s₂, happend₂⟩ := append_of_steady hsteady [Entry.create "c" "r" none none]
  refine ⟨s, s₁, s₂, hs, ?_, hstanding, hcontent, hlog₁, ?_⟩
  · exact (add_of_free hready.holds hfree).mpr (Action.ends_bind.mpr (.inr ⟨_, happend, rfl⟩))
  · exact (add_of_free hstanding.holds hfree₁).mpr (happend₂.bind (Action.ends_pure.mpr ⟨rfl, rfl⟩))

/-- After calls that the disk may have failed anywhere in their writes, an add that succeeds leaves what it should
exactly if nothing stands behind the last line feed of the log. Otherwise its entry is not found, and what is found is
what the ended lines say. -/
theorem add_after_failed_writes {path : String} {d : Disk} {s after : FileStore} {moves : List Move}
    (hopens : Opens path d s) (hfails : s.OnlyCallsFail moves)
    (hadd : (Store.add e).Ends (Action.each Move.onFile moves s).2 (.ok id) after) :
    let before := (Action.each Move.onFile moves s).2
    id = e.id ∧ ∃ ended torn, before.disk.contents before.log = ended ++ torn ∧ Bytes.Terminated ended ∧ 10 ∉ torn ∧
      (before.Recorded e after ↔ torn = []) ∧
      (torn ≠ [] → ((Store.getById e.id).run after).outcome = .ok none ∧
        ∀ id, ((Store.getById id).run after).outcome = .ok ((Log.ofBytes ended).get? id)) := by
  intro before
  have hstanding : before.Standing := hopens.rewritten.ready.standing.moves moves hfails
  obtain ⟨hid, hput⟩ := hstanding.add_ok hadd
  obtain ⟨ended, torn, hfrayed⟩ := hstanding.frayed
  refine ⟨hid, ended, torn, hfrayed.eq_append, hfrayed.terminated, hfrayed.torn.newline_not_mem, ⟨?_, ?_⟩, ?_⟩
  · intro hrecorded
    by_contra htorn
    exact (hput.not_recorded hfrayed htorn).2 hrecorded
  · rintro rfl
    refine hput.recorded hstanding ?_
    rw [hfrayed.eq_append, List.append_nil]
    exact hfrayed.terminated
  · exact fun htorn => ⟨(hput.not_recorded hfrayed htorn).1, hput.getById_of_torn hfrayed htorn⟩

theorem fullDisk_add_after_failed_writes : ∃ s after, Opens "log" fullDisk s ∧
    s.OnlyCallsFail [.call (.add (Entry.create "b" "s" none none))] ∧
    let before := (Action.each Move.onFile [.call (.add (Entry.create "b" "s" none none))] s).2
    (Store.add (Entry.create "c" "r" none none)).Ends before (.ok "c") after ∧
      ∃ ended torn, before.disk.contents before.log = ended ++ torn ∧ Bytes.Terminated ended ∧ 10 ∉ torn ∧
        (before.Recorded (Entry.create "c" "r" none none) after ↔ torn = []) := by
  obtain ⟨s, s₁, s₂, hs, hfirst, -, -, -, hsecond⟩ := fullDisk_adds
  have hfails : s.OnlyCallsFail [.call (.add (Entry.create "b" "s" none none))] := by
    intro p hp cause _
    cases List.mem_singleton.mp hp
    exact ⟨_, rfl⟩
  have hbefore : (Action.each Move.onFile [.call (.add (Entry.create "b" "s" none none))] s).2 = s₁ :=
    (Action.ends_map.mpr ⟨_, hfirst, rfl⟩ : (Reply.id <$> Store.add (Entry.create "b" "s" none none)).Ends s _ s₁).2
  have hadd := hbefore.symm ▸ hsecond
  obtain ⟨-, ended, torn, hcontent, hended, htorn, hrecorded, -⟩ := add_after_failed_writes hs hfails hadd
  exact ⟨s, s₂, hs, hfails, hadd, ended, torn, hcontent, hended, htorn, hrecorded⟩

/-- An add that succeeds may lose its entry, and another one that could be found before it. -/
theorem fullDisk_loses_entries : ∃ s s₁ s₂, Opens "log" fullDisk s ∧
    (Store.add (Entry.create "b" "s" none none)).Ends s (.error (.io (.system 28))) s₁ ∧
    ((Store.getById "b").run s₁).outcome = .ok (some (Entry.create "b" "s" none none)) ∧
    (Store.add (Entry.create "c" "r" none none)).Ends s₁ (.ok "c") s₂ ∧
    ((Store.getById "c").run s₂).outcome = .ok none ∧ ((Store.getById "b").run s₂).outcome = .ok none := by
  obtain ⟨s, s₁, s₂, hs, hfirst, hstanding, hcontent, hlog, hsecond⟩ := fullDisk_adds
  have hfrayed : Log.Frayed (s₁.disk.contents s₁.log) [] (Record.encode (Entry.create "b" "s" none none)) :=
    ⟨hcontent, .nil, Log.Torn.nil.concat (List.prefix_refl _)⟩
  obtain ⟨-, hput⟩ := hstanding.add_ok hsecond
  have hlost : ∀ id, ((Store.getById id).run s₂).outcome = .ok none := fun id =>
    (hput.getById_of_torn hfrayed (by simp [Record.encode]) id).trans (congrArg Except.ok (Log.get?_empty id))
  refine ⟨s, s₁, s₂, hs, hfirst, ?_, hsecond, hlost "c", hlost "b"⟩
  rw [(answers_of_holds hstanding.holds).getById, hlog, Log.empty_indexed.get?_apply_fresh (Log.get?_empty _)]
  exact congrArg Except.ok (Contents.store_self _ (Entry.create "b" "s" none none))

end ShortLinks.FileStore
