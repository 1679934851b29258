import ShortLinks.Proofs.Disk
import ShortLinks.Proofs.Log.Compaction
import ShortLinks.Store.File

/-!
# The file store reads what it wrote

A store is ready when its path leads to its log, the last line of the log is ended, and a new log can be written
beside it. Opening a log makes a store ready, whatever the log holds, and every operation that does not fail on the
disk keeps it so.
-/

set_option autoImplicit false

namespace ShortLinks.FileStore

variable {s s' : FileStore} {d d' : Disk} {path : String} {n : Nat} {r : Except StoreError Reply}

theorem readLog_ok {log : Log} (h : (readLog path).Ends d (.ok log) d') :
    d' = d ∧ log = Log.ofBytes ((d.content? path).getD []) := by
  have hcontent : d.content? path = ((Disk.readFile path).run d).outcome.toOption := rfl
  obtain ⟨outcome, d₁, ⟨houtcome, hstate⟩, h⟩ := Action.ends_attempt_bind.mp h
  rw [Disk.readFile_state] at hstate
  rw [hcontent, houtcome]
  cases outcome with
  | error cause =>
    dsimp only at h
    split at h
    · obtain ⟨hlog, hd'⟩ := Action.ends_pure.mp h
      cases hlog
      exact ⟨hd'.trans hstate.symm, rfl⟩
    · cases (Action.ends_fail.mp h).1
  | ok content =>
    have hpure := Action.ends_emitAll_bind.mp h
    obtain ⟨hlog, hd'⟩ := Action.ends_pure.mp hpure
    cases hlog
    exact ⟨hd'.trans hstate.symm, rfl⟩

theorem readLog_of_holds (h : d.Holds path n) : (readLog path).Ends d (.ok (Log.ofBytes (d.contents n))) d := by
  refine Action.ends_attempt_bind.mpr ⟨_, d, Disk.readFile_of_holds h, ?_⟩
  exact Action.ends_emitAll_bind.mpr (Action.ends_pure.mpr ⟨rfl, rfl⟩)

theorem compactLog_ends (h : (compactLog path).Ends d (.ok n) d') :
    d.Later d' ∧ d'.Holds path n ∧ d'.Writable (besidePath path) ∧
      d'.contents n = (Log.ofBytes ((d.content? path).getD [])).toBytes := by
  obtain ⟨log, d₁, hread, hrest⟩ := Action.ends_bind_ok.mp h
  obtain ⟨hd₁, hlog⟩ := readLog_ok hread
  obtain ⟨_, d₂, hwrite, hrest⟩ := Action.ends_bind_ok.mp hrest
  obtain ⟨_, d₃, hrename, hrest⟩ := Action.ends_bind_ok.mp hrest
  obtain ⟨m, d₄, hopen, hrest⟩ := Action.ends_bind_ok.mp hrest
  have hpure := Action.ends_emit_bind.mp hrest
  obtain ⟨hm, hd'⟩ := Action.ends_pure.mp hpure
  cases hm
  subst hd₁ hd'
  obtain ⟨hlater₂, k, hbeside, hcontents⟩ := Disk.writeFile_ends (Action.ends_mapError_ok.mp hwrite)
  obtain ⟨hlater₃, hrenamed, hsame⟩ := Disk.rename_ends hbeside (Action.ends_mapError_ok.mp hrename)
  obtain ⟨hholds, hlater₄, hopened⟩ := Disk.openFile_ends (Action.ends_mapError_ok.mp hopen)
  refine ⟨(hlater₂.trans hlater₃).trans hlater₄, hholds, (hbeside.writable.later hlater₃).later hlater₄, ?_⟩
  rw [hopened, Disk.content?_of_holds hrenamed, Option.getD_some, hsame, hcontents, hlog]

theorem compactLog_of_writable (h : d.Holds path n) (hbeside : d.Writable (besidePath path)) (hd : d.Steady) :
    ∃ m d', (compactLog path).Ends d (.ok m) d' := by
  obtain ⟨d₂, hwrite⟩ := Disk.writeFile_of_writable hbeside hd (Log.ofBytes (d.contents n)).toBytes
  obtain ⟨hlater₂, k, hheld, -⟩ := Disk.writeFile_ends hwrite
  obtain ⟨d₃, hrename⟩ := Disk.rename_of_writable hheld (h.writable.later hlater₂)
  obtain ⟨-, hrenamed, -⟩ := Disk.rename_ends hheld hrename
  obtain ⟨m, d₄, hopen⟩ := Disk.openFile_of_writable hrenamed.writable
  refine ⟨m, d₄, (readLog_of_holds h).bind ?_⟩
  refine (Action.ends_mapError_ok.mpr hwrite).bind ?_
  refine (Action.ends_mapError_ok.mpr hrename).bind ?_
  refine (Action.ends_mapError_ok.mpr hopen).bind ?_
  exact Action.ends_emit_bind.mpr (Action.ends_pure.mpr ⟨rfl, rfl⟩)

theorem openLog_ends (h : (openLog path).Ends d (.ok n) d') :
    d.Later d' ∧ d'.Holds path n ∧ d'.Writable (besidePath path) ∧
      d'.contents n = (Log.ofBytes ((d.content? path).getD [])).toBytes := by
  obtain ⟨m, d₁, hopen, h⟩ := Action.ends_bind_ok.mp h
  obtain ⟨hholds, hlater, hcontents⟩ := Disk.openFile_ends (Action.ends_mapError_ok.mp hopen)
  obtain ⟨hlater', hholds', hbeside, hwritten⟩ := compactLog_ends h
  refine ⟨hlater.trans hlater', hholds', hbeside, ?_⟩
  rw [hwritten, Disk.content?_of_holds hholds, Option.getD_some, hcontents]

theorem openLog_of_writable (h : d.Writable path) (hbeside : d.Writable (besidePath path)) (hd : d.Steady) :
    ∃ m d', (openLog path).Ends d (.ok m) d' := by
  obtain ⟨k, d₁, hopen⟩ := Disk.openFile_of_writable h
  obtain ⟨hholds, hlater, -⟩ := Disk.openFile_ends hopen
  obtain ⟨m, d₂, hcompact⟩ := compactLog_of_writable hholds (hbeside.later hlater) (hlater.steady hd)
  exact ⟨m, d₂, (Action.ends_mapError_ok.mpr hopen).bind hcompact⟩

structure Ready (s : FileStore) : Prop where
  holds : s.disk.Holds s.path s.log
  terminated : Bytes.Terminated (s.disk.contents s.log)
  beside : s.disk.Writable (besidePath s.path)

def logOf (s : FileStore) : Log := Log.ofBytes (s.disk.contents s.log)

def contents (s : FileStore) : Contents := s.logOf.get?

theorem logOf_indexed (s : FileStore) : s.logOf.Indexed := Log.ofBytes_indexed _

def Opens (path : String) (d : Disk) (s : FileStore) : Prop :=
  (openLog path).Ends d (.ok s.log) s.disk ∧ s.path = path

/-- A store whose log was written anew from what was found under its path. -/
structure Rewritten (path : String) (d : Disk) (s : FileStore) : Prop where
  path_eq : s.path = path
  later : d.Later s.disk
  ready : s.Ready
  content : s.disk.contents s.log = (Log.ofBytes ((d.content? path).getD [])).toBytes

theorem Opens.rewritten (h : Opens path d s) : Rewritten path d s := by
  obtain ⟨hopen, rfl⟩ := h
  obtain ⟨hlater, hholds, hbeside, hcontents⟩ := openLog_ends hopen
  exact ⟨rfl, hlater, ⟨hholds, hcontents ▸ Log.toBytes_terminated _, hbeside⟩, hcontents⟩

theorem exists_opens (h : d.Writable path) (hbeside : d.Writable (besidePath path)) (hd : d.Steady) :
    ∃ s, Opens path d s := by
  obtain ⟨n, d', hopen⟩ := openLog_of_writable h hbeside hd
  exact ⟨⟨path, n, d'⟩, hopen, rfl⟩

/-- Compacting and opening again are the same action on the disk but for how the log is come by. -/
theorem relog_ends {f : String → Action StoreError Disk Nat} :
    (do let s ← Action.state; let log ← onDisk (f s.path); Action.modify fun s => { s with log } :
      Action StoreError FileStore Unit).Ends s (.ok ()) s' ↔
    ∃ n d', (f s.path).Ends s.disk (.ok n) d' ∧ s' = { s with log := n, disk := d' } := by
  constructor
  · intro h
    have hrest := Action.ends_state_bind.mp h
    obtain ⟨n, s₂, hdisk, hset⟩ := Action.ends_bind_ok.mp hrest
    obtain ⟨d', hlog, hs₂⟩ := Action.ends_onPart.mp hdisk
    refine ⟨n, d', hlog, ?_⟩
    rw [(Action.ends_modify.mp hset).2, hs₂]
  · rintro ⟨n, d', hlog, rfl⟩
    refine Action.ends_state_bind.mpr ?_
    exact Action.Ends.bind (Action.ends_onPart.mpr ⟨d', hlog, rfl⟩) (Action.ends_modify.mpr ⟨rfl, rfl⟩)

theorem compact_ends (h : compact.Ends s (.ok ()) s') : Rewritten s.path s.disk s' := by
  obtain ⟨n, d', hlog, rfl⟩ := relog_ends.mp h
  obtain ⟨hlater, hholds, hbeside, hcontents⟩ := compactLog_ends hlog
  exact ⟨rfl, hlater, ⟨hholds, hcontents ▸ Log.toBytes_terminated _, hbeside⟩, hcontents⟩

theorem reopen_ends (h : reopen.Ends s (.ok ()) s') : Opens s.path s.disk s' := by
  obtain ⟨n, d', hlog, rfl⟩ := relog_ends.mp h
  exact ⟨hlog, rfl⟩

theorem compact_of_steady (h : s.Ready) (hd : s.disk.Steady) : ∃ s', compact.Ends s (.ok ()) s' := by
  obtain ⟨n, d', hlog⟩ := compactLog_of_writable h.holds h.beside hd
  exact ⟨_, relog_ends.mpr ⟨n, d', hlog, rfl⟩⟩

theorem reopen_of_steady (h : s.Ready) (hd : s.disk.Steady) : ∃ s', reopen.Ends s (.ok ()) s' := by
  obtain ⟨n, d', hlog⟩ := openLog_of_writable h.holds.writable h.beside hd
  exact ⟨_, relog_ends.mpr ⟨n, d', hlog, rfl⟩⟩

theorem Rewritten.logOf_eq (h : Rewritten path d s) :
    s.logOf = Log.ofBytes (Log.ofBytes ((d.content? path).getD [])).toBytes := by
  unfold logOf
  rw [h.content]

theorem Rewritten.contents_eq (h : Rewritten s.path s.disk s') (hs : s.Ready) : s'.contents = s.contents := by
  unfold contents
  rw [h.logOf_eq, Disk.content?_of_holds hs.holds, Option.getD_some]
  exact Log.get?_ofBytes_toBytes _

theorem readAll_of_holds (h : s.disk.Holds s.path s.log) : readAll.Ends s (.ok s.logOf) s :=
  Action.ends_state_bind.mpr (Action.ends_onPart.mpr ⟨_, readLog_of_holds h, rfl⟩)

theorem readAll_bind {α : Type} {f : Log → Action StoreError FileStore α} {r : Except StoreError α} (h : s.Ready) :
    (readAll >>= f).Ends s r s' ↔ (f s.logOf).Ends s r s' :=
  (readAll_of_holds h.holds).bind_iff

/-- What becomes of a store whose log is appended to. -/
structure Extended (s : FileStore) (records : List Entry) (s' : FileStore) : Prop where
  ready : s'.Ready
  later : s.disk.Later s'.disk
  logOf : s'.logOf = records.foldl Log.apply s.logOf

theorem append_iff {records : List Entry} {r : Except StoreError Unit} : (append records).Ends s r s' ↔
    ∃ r₀ d', (Disk.append s.log (Log.recordLines records)).Ends s.disk r₀ d' ∧ r = r₀.mapError StoreError.io ∧
      s' = { s with disk := d' } := by
  constructor
  · intro h
    have hdisk := Action.ends_state_bind.mp h
    obtain ⟨d', hwrite, hs'⟩ := Action.ends_onPart.mp hdisk
    obtain ⟨r₀, hput, hr⟩ := Action.ends_mapError.mp hwrite
    exact ⟨r₀, d', hput, hr, hs'⟩
  · rintro ⟨r₀, d', hput, hr, hs'⟩
    exact Action.ends_state_bind.mpr (Action.ends_onPart.mpr ⟨d', Action.ends_mapError.mpr ⟨r₀, hput, hr⟩, hs'⟩)

theorem append_ok_iff {records : List Entry} : (append records).Ends s (.ok ()) s' ↔
    ∃ d', (Disk.append s.log (Log.recordLines records)).Ends s.disk (.ok ()) d' ∧ s' = { s with disk := d' } := by
  rw [append_iff]
  constructor
  · rintro ⟨r₀, d', hput, hr, hs'⟩
    cases r₀ with
    | ok done => exact ⟨d', hput, hs'⟩
    | error cause => cases hr
  · rintro ⟨d', hput, hs'⟩
    exact ⟨_, d', hput, rfl, hs'⟩

theorem append_ends {records : List Entry} (h : s.Ready) (ha : (append records).Ends s (.ok ()) s') :
    s.Extended records s' := by
  obtain ⟨d', hput, rfl⟩ := append_ok_iff.mp ha
  obtain ⟨hlater, hnodes, hcontents⟩ := Disk.append_ends hput
  refine ⟨⟨h.holds.of_nodes_eq hlater hnodes, ?_, h.beside.later hlater⟩, hlater, ?_⟩
  · show Bytes.Terminated (d'.contents s.log)
    rw [hcontents]
    exact h.terminated.append (Log.recordLines_terminated records)
  · show Log.ofBytes (d'.contents s.log) = _
    rw [hcontents]
    exact Log.ofBytes_append_recordLines h.terminated records

theorem append_of_steady (hd : s.disk.Steady) (records : List Entry) : ∃ s', (append records).Ends s (.ok ()) s' := by
  obtain ⟨d', hput⟩ := Disk.append_of_steady hd s.log (Log.recordLines records)
  exact ⟨_, append_ok_iff.mpr ⟨d', hput, rfl⟩⟩

/-- The outcome of a call that the disk did not carry out. -/
def Fault (s : FileStore) {α : Type} (r : Except StoreError α) : Prop :=
  ¬ s.disk.Steady ∧ ∃ cause, r = .error (.io cause)

theorem append_fails {records : List Entry} {e : StoreError} (ha : (append records).Ends s (.error e) s') :
    s.Fault (Except.error e : Except StoreError Unit) := by
  constructor
  · intro hd
    obtain ⟨s₁, hok⟩ := append_of_steady hd records
    cases (hok.unique ha).1
  · obtain ⟨r₀, d', -, heq, -⟩ := append_iff.mp ha
    cases r₀ with
    | ok x => cases heq
    | error cause => exact ⟨cause, heq⟩

theorem append_pure_cases {α : Type} {records : List Entry} {x : α} {r : Except StoreError α} (h : s.Ready)
    (ha : (do append records; pure x : Action StoreError FileStore α).Ends s r s') :
    s.Fault r ∨ r = .ok x ∧ s.Extended records s' := by
  rcases Action.ends_bind.mp ha with ⟨_, s₁, happend, hpure⟩ | ⟨e, happend, rfl⟩
  · obtain ⟨hr, hs'⟩ := Action.ends_pure.mp hpure
    rw [hs']
    exact .inr ⟨hr, append_ends h happend⟩
  · obtain ⟨hd, cause, heq⟩ := append_fails happend
    cases heq
    exact .inl ⟨hd, cause, rfl⟩

theorem Fault.map {α β : Type} {r : Except StoreError α} (h : s.Fault r) (f : α → β) : s.Fault (r.map f) := by
  obtain ⟨hd, cause, rfl⟩ := h
  exact ⟨hd, cause, rfl⟩

structure Stepped (s : FileStore) (call : Call) (r : Except StoreError Reply) (s' : FileStore) : Prop where
  ready : s'.Ready
  later : s.disk.Later s'.disk
  step : s.contents.Step call r s'.contents

theorem Extended.stepped {call : Call} {records : List Entry} (h : s.Extended records s')
    (hstep : s.contents.Step call r (records.foldl Log.apply s.logOf).get?) : s.Stepped call r s' := by
  refine ⟨h.ready, h.later, ?_⟩
  unfold contents at hstep ⊢
  rw [h.logOf]
  exact hstep

theorem reads_stepped {α : Type} {call : Call} {f : Log → α} {g : α → Reply} (h : s.Ready)
    (hends : (g <$> (do let log ← readAll; pure (f log) : Action StoreError FileStore α)).Ends s r s')
    (hstep : s.contents.Step call (.ok (g (f s.logOf))) s.contents) : s.Stepped call r s' := by
  obtain ⟨r₀, hread, rfl⟩ := Action.ends_map.mp hends
  have hpure := (readAll_bind h).mp hread
  obtain ⟨rfl, rfl⟩ := Action.ends_pure.mp hpure
  exact ⟨h, .refl _, hstep⟩

theorem add_cases {e : Entry} (h : s.Ready) (hends : (Call.add e).perform.Ends s r s') :
    s.Fault r ∨ s.Stepped (.add e) r s' := by
  obtain ⟨r₀, hadd, rfl⟩ := Action.ends_map.mp hends
  have hcases := (readAll_bind h).mp hadd
  unfold Log.refusal? at hcases
  cases hlive : s.logOf.liveFor? e.target with
  | some x =>
    rw [hlive] at hcases
    obtain ⟨rfl, rfl⟩ := Action.ends_fail.mp hcases
    exact .inr ⟨h, .refl _, .conflict (s'.logOf_indexed.liveFor?_eq_some hlive)⟩
  | none =>
    have hfree := s.logOf_indexed.liveFor?_eq_none hlive
    have hknown : s.logOf.contains e.id = (s.contents e.id).isSome := congrFun s.logOf_indexed.contains_eq e.id
    rw [hlive] at hcases
    by_cases hid : s.contents e.id = none
    · rw [hid] at hknown
      dsimp only at hcases
      rw [hknown] at hcases
      rcases append_pure_cases h hcases with hfault | ⟨rfl, hextended⟩
      · exact .inl (hfault.map _)
      · refine .inr (hextended.stepped ?_)
        rw [List.foldl_cons, List.foldl_nil, s.logOf_indexed.get?_apply_fresh hid]
        exact .added hfree hid
    · dsimp only at hcases
      rw [hknown, if_pos (Option.isSome_iff_ne_none.mpr hid)] at hcases
      obtain ⟨rfl, rfl⟩ := Action.ends_fail.mp hcases
      exact .inr ⟨h, .refl _, .taken hfree hid⟩

theorem createBatch_cases {batch : List Entry} (h : s.Ready) (hends : (Call.createBatch batch).perform.Ends s r s') :
    s.Fault r ∨ s.Stepped (.createBatch batch) r s' := by
  obtain ⟨r₀, hbatch, rfl⟩ := Action.ends_map.mp hends
  have hcases := (readAll_bind h).mp hbatch
  rw [s.logOf_indexed.contains_eq] at hcases
  cases htaken : firstTaken? (fun id => (s.logOf.get? id).isSome) batch with
  | some id =>
    rw [htaken] at hcases
    obtain ⟨rfl, rfl⟩ := Action.ends_fail.mp hcases
    exact .inr ⟨h, .refl _, .refused htaken⟩
  | none =>
    rw [htaken] at hcases
    rcases append_pure_cases h hcases with hfault | ⟨rfl, hextended⟩
    · exact .inl (hfault.map _)
    · exact .inr (hextended.stepped (.stored htaken (s.logOf_indexed.storeItems_answers htaken)))

theorem softDelete_extended {requester : String} {ids : List String} (h : s.Ready)
    (hends : (softDelete requester ids).Ends s (.ok ()) s') : s.Extended (s.logOf.tombstones requester ids) s' := by
  have hnoted := (readAll_bind h).mp hends
  exact append_ends h (Action.ends_emit_bind.mp hnoted)

theorem softDelete_cases {requester : String} {ids : List String} (h : s.Ready)
    (hends : (Call.softDelete requester ids).perform.Ends s r s') :
    s.Fault r ∨ s.Stepped (.softDelete requester ids) r s' := by
  obtain ⟨r₀, hdelete, rfl⟩ := Action.ends_map.mp hends
  cases r₀ with
  | error e =>
    have hnoted := (readAll_bind h).mp hdelete
    exact .inl ((append_fails (Action.ends_emit_bind.mp hnoted)).map _)
  | ok done =>
    refine .inr ((softDelete_extended h hdelete).stepped ?_)
    rw [s.logOf_indexed.tombstones_deletes]
    exact .deleted requester ids

theorem ping_state (s : FileStore) : ((Store.ping : Action StoreError FileStore Unit).run s).state = s := by
  have hdisk := Action.ends_state_bind.mp (Action.ends_run (Store.ping : Action StoreError FileStore Unit) s)
  obtain ⟨d', hinspect, hs'⟩ := Action.ends_onPart.mp hdisk
  obtain ⟨r, ⟨-, hd'⟩, -⟩ := Action.ends_mapError.mp hinspect
  rw [Disk.inspect_state] at hd'
  rw [hs', ← hd']

theorem ping_stepped (h : s.Ready) (hends : Call.ping.perform.Ends s r s') : s.Stepped .ping r s' := by
  have hinspect : (Disk.inspect s.path).Ends s.disk (.ok ()) s.disk := by
    obtain ⟨place, hplace, hfile⟩ := h.holds
    have hrun : (Disk.inspect s.path).run s.disk = ⟨.ok (), s.disk, []⟩ := by
      show Disk.inspect s.path s.disk = _
      unfold Disk.inspect
      rw [Disk.locate_of_locateFile hplace]
      dsimp only
      rw [hfile]
    rw [Action.Ends, hrun]
    exact ⟨rfl, rfl⟩
  have hping : (Store.ping : Action StoreError FileStore Unit).Ends s (.ok ()) s :=
    Action.ends_state_bind.mpr (Action.ends_onPart.mpr ⟨_, Action.ends_mapError_ok.mpr hinspect, rfl⟩)
  obtain ⟨r₀, hstore, rfl⟩ := Action.ends_map.mp hends
  obtain ⟨rfl, rfl⟩ := hping.unique hstore
  exact ⟨h, .refl _, .pinged⟩

/-- Every call to a ready store does what is asked of stores, unless the disk fails. -/
theorem perform_cases {call : Call} (h : s.Ready) (hends : call.perform.Ends s r s') :
    s.Fault r ∨ s.Stepped call r s' := by
  cases call with
  | add e => exact add_cases h hends
  | getById id => exact .inr (reads_stepped (f := fun log => log.get? id) (g := .entry) h hends (.found id))
  | allByOwner owner =>
    exact .inr (reads_stepped (f := fun log => log.entries.toList.filter fun e : Entry => e.isOwnedBy owner)
      (g := fun entries : List Entry => .owned entries) h hends (.listed owner s.logOf_indexed.lists))
  | createBatch batch => exact createBatch_cases h hends
  | softDelete requester ids => exact softDelete_cases h hends
  | stats =>
    exact .inr (reads_stepped (f := fun log => Stats.ofEntries log.entries.toList) (g := .stats) h hends
      (.counted s.logOf_indexed.lists))
  | ping => exact .inr (ping_stepped h hends)
  | close =>
    obtain ⟨r₀, hclose, rfl⟩ := Action.ends_map.mp hends
    obtain ⟨rfl, rfl⟩ := Action.ends_pure.mp hclose
    exact .inr ⟨h, .refl _, .closed⟩

theorem perform_of_steady (call : Call) (h : s.Ready) (hd : s.disk.Steady) :
    s.Stepped call (call.perform.run s).outcome (call.perform.run s).state :=
  (perform_cases h (Action.ends_run _ _)).resolve_left fun hfault => hfault.1 hd

theorem quiet_readLog (path : String) : (readLog path).Quiet := by
  have hread := Action.quiet_of_silent (Disk.readFile_silent path)
  refine hread.attempt.bind fun outcome => ?_
  cases outcome with
  | error cause =>
    dsimp only
    split
    · exact Action.quiet_pure _
    · exact Action.quiet_fail _
  | ok content =>
    refine Action.Quiet.bind (fun d => ?_) fun _ => Action.quiet_pure _
    refine List.filterMap_eq_nil_iff.mpr fun event hevent => ?_
    obtain ⟨fault, -, rfl⟩ := List.mem_map.mp hevent
    rfl

theorem quiet_readAll : readAll.Quiet := Action.quiet_state.bind fun s => (quiet_readLog s.path).onPart _ _

theorem quiet_append (records : List Entry) : (append records).Quiet := by
  refine Action.quiet_state.bind fun s => ?_
  exact ((Action.quiet_of_silent (Disk.append_silent _ _)).mapError StoreError.io).onPart _ _

theorem perform_quiet (call : Call) : (call.perform : Action StoreError FileStore Reply).Quiet := by
  cases call with
  | add e =>
    refine Action.Quiet.map (quiet_readAll.bind fun log => ?_) _
    cases log.refusal? e with
    | some refusal => exact Action.quiet_fail _
    | none => exact (quiet_append [e]).bind fun _ => Action.quiet_pure _
  | createBatch batch =>
    refine Action.Quiet.map (quiet_readAll.bind fun log => ?_) _
    cases firstTaken? log.contains batch with
    | some id => exact Action.quiet_fail _
    | none => exact (quiet_append _).bind fun _ => Action.quiet_pure _
  | softDelete requester ids =>
    refine Action.Quiet.map (quiet_readAll.bind fun log => ?_) _
    exact Action.Quiet.bind (fun _ => rfl) fun _ => quiet_append _
  | getById | allByOwner | stats =>
    exact Action.Quiet.map (quiet_readAll.bind fun _ => Action.quiet_pure _) _
  | ping =>
    refine Action.Quiet.map (Action.quiet_state.bind fun s => ?_) _
    exact ((Action.quiet_of_silent (Disk.inspect_silent s.path)).mapError StoreError.io).onPart _ _
  | close => exact fun _ => rfl

instance : LawfulStore FileStore where
  Ready s := s.Ready ∧ s.disk.Steady
  contents := contents
  keyed s _ := s.logOf_indexed.keyed
  ready_perform call _ h :=
    have hstep := perform_of_steady call h.1 h.2
    ⟨hstep.ready, hstep.later.steady h.2⟩
  step_perform call _ h := (perform_of_steady call h.1 h.2).step
  quiet_perform := perform_quiet

end ShortLinks.FileStore
