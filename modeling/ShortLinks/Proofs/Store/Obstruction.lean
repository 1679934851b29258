import Mathlib.Logic.Relation
import ShortLinks.Proofs.Disk.Frame
import ShortLinks.Proofs.Store.Deletions
import ShortLinks.Proofs.Store.Settling
import ShortLinks.Proofs.Store.Tearing

/-!
# Attempts that fail

Writing a log anew takes several operations on the disk, and each of them may find something in its way. Until the new
log takes the name of the old one, all that is written stands beside it, and nothing can go wrong after that. So an
attempt that fails, at whatever point, leaves the log as it was, and a later one succeeds with the same store.
-/

set_option autoImplicit false

namespace ShortLinks

namespace Disk

variable {d d' : Disk} {path : String} {place : Place}

theorem segments_ne_nil (path : String) : segments path ≠ [] := by
  unfold segments
  rw [ne_eq, List.map_eq_nil_iff]
  exact List.splitOn_ne_nil _ _

theorem slash_not_mem_of_mem_splitOn {cs piece : List Char} (h : piece ∈ cs.splitOn '/') : '/' ∉ piece := by
  induction cs generalizing piece with
  | nil =>
    rw [List.splitOn_nil, List.mem_singleton] at h
    rw [h]
    exact List.not_mem_nil
  | cons c cs ih =>
    rw [List.splitOn_cons_eq_if_modifyHead] at h
    split at h
    · rcases List.mem_cons.mp h with rfl | h
      · exact List.not_mem_nil
      · exact ih h
    · next hc =>
      cases hsplit : cs.splitOn '/' with
      | nil => exact absurd hsplit (List.splitOn_ne_nil _ _)
      | cons first rest =>
        rw [hsplit, List.modifyHead_cons] at h
        rcases List.mem_cons.mp h with rfl | h
        · have hfirst := ih (hsplit ▸ List.mem_cons_self : first ∈ cs.splitOn '/')
          rw [List.mem_cons, not_or]
          exact ⟨fun heq => hc (beq_iff_eq.mpr heq.symm), hfirst⟩
        · exact ih (hsplit ▸ List.mem_cons_of_mem _ h)

theorem slash_not_mem_of_mem_segments {name : String} (h : name ∈ segments path) : '/' ∉ name.toList := by
  obtain ⟨piece, hpiece, rfl⟩ := List.mem_map.mp h
  rw [String.toList_ofList]
  exact slash_not_mem_of_mem_splitOn hpiece

theorem segments_intercalate {names : List String} (hnames : ∀ name ∈ names, '/' ∉ name.toList) (hne : names ≠ []) :
    segments (String.intercalate "/" names) = names := by
  unfold segments
  rw [String.toList_intercalate]
  have hsplit : (['/'].intercalate (names.map String.toList)).splitOn '/' = names.map String.toList := by
    refine List.splitOn_intercalate '/' (fun piece hpiece => ?_) (by rwa [ne_eq, List.map_eq_nil_iff])
    obtain ⟨name, hname, rfl⟩ := List.mem_map.mp hpiece
    exact hnames name hname
  refine (congrArg (List.map String.ofList) hsplit).trans ?_
  rw [List.map_map]
  exact (List.map_congr_left fun name _ => String.ofList_toList).trans (List.map_id _)

theorem head?_eq_slash_iff (path : String) :
    path.toList.head? = some '/' ↔ ∃ rest, rest ≠ [] ∧ segments path = "" :: rest := by
  unfold segments
  cases path.toList with
  | nil => simp [List.splitOn_nil]
  | cons c cs =>
    rw [List.splitOn_cons_eq_if_modifyHead, List.head?_cons, Option.some_inj]
    cases hsplit : cs.splitOn '/' with
    | nil => exact absurd hsplit (List.splitOn_ne_nil _ _)
    | cons first rest =>
      by_cases hc : c = '/'
      · simp [hc]
      · simp [hc]

end Disk

namespace FileStore

open Disk (segments readPath)

variable {s s' : FileStore} {d d' d'' : Disk} {path name : String} {place parent : Place} {n : Nat}

theorem segments_besidePath (path : String) :
    ∃ front last, segments path = front ++ [last] ∧ segments (besidePath path) = front ++ [last ++ ".compact"] := by
  obtain ⟨front, last, hpath⟩ : ∃ front last, segments path = front ++ [last] := by
    obtain ⟨front, last, hpath⟩ := (List.eq_nil_or_concat (segments path)).resolve_left (Disk.segments_ne_nil path)
    exact ⟨front, last, hpath.trans List.concat_eq_append⟩
  refine ⟨front, last, hpath, ?_⟩
  have hbeside : besidePath path = String.intercalate "/" (front ++ [last ++ ".compact"]) := by
    simp [besidePath, hpath]
  rw [hbeside]
  refine Disk.segments_intercalate (fun name hname => ?_) (by simp)
  have hslash : ∀ name ∈ segments path, '/' ∉ name.toList := fun name => Disk.slash_not_mem_of_mem_segments
  rw [hpath] at hslash
  rcases List.mem_append.mp hname with hmem | hmem
  · exact hslash name (List.mem_append_left _ hmem)
  · have hlast := hslash last (List.mem_append_right _ (List.mem_singleton_self _))
    rw [List.mem_singleton.mp hmem, String.toList_append, List.mem_append, not_or]
    exact ⟨hlast, by decide⟩

theorem besidePath_absolute_iff (path : String) :
    (besidePath path).toList.head? = some '/' ↔ path.toList.head? = some '/' := by
  obtain ⟨front, last, hpath, hbeside⟩ := segments_besidePath path
  rw [Disk.head?_eq_slash_iff, Disk.head?_eq_slash_iff, hpath, hbeside]
  cases front with
  | nil => simp
  | cons first front => simp

theorem eq_of_readPath {parsed : Disk.Path} (h : readPath path = .ok parsed) :
    parsed = ⟨path.toList.head? = some '/', segments path⟩ := by
  unfold readPath at h
  split at h
  · cases h
  · split at h
    · cases h
    · split at h
      · cases h
      · cases h
        rfl

theorem length_append_compact (name : String) : (name ++ ".compact").length = name.length + 8 := by
  rw [String.length_append]
  rfl

theorem follow_compact (h : d.follow parent (name ++ ".compact") = .ok place) :
    d.nodes parent = some .directory ∧ place = (name ++ ".compact") :: parent := by
  have hlong : ∀ short : String, short.length < 8 → name ++ ".compact" ≠ short := by
    rintro short hlength rfl
    rw [length_append_compact] at hlength
    omega
  unfold Disk.follow at h
  split at h
  · cases h
  · cases h
  · next hdir =>
    rw [if_neg (not_or.mpr ⟨hlong "" (by decide), hlong "." (by decide)⟩), if_neg (hlong ".." (by decide))] at h
    split at h
    · cases h
    · cases h
      exact ⟨hdir, rfl⟩

theorem follow_ne_compact {p : Place} (h : d.follow parent name = .ok p) : p ≠ (name ++ ".compact") :: parent := by
  unfold Disk.follow at h
  split at h
  · cases h
  · cases h
  · split at h
    · cases h
      exact (List.cons_ne_self _ _).symm
    · split at h
      · cases h
        intro heq
        have hlength := congrArg List.length heq
        rw [List.length_tail, List.length_cons] at hlength
        omega
      · split at h
        · cases h
        · cases h
          intro heq
          have hlength := congrArg String.length (List.cons.inj heq).1
          rw [length_append_compact] at hlength
          omega

/-- The path of a log and the one beside it lead to the same directory, and from there to different places. -/
theorem exists_last_name {parsed : Disk.Path} (hparsed : readPath path = .ok parsed) :
    ∃ last, ∀ (d : Disk) (place : Place), d.locateFile (besidePath path) = .ok place →
      ∃ parent, place = (last ++ ".compact") :: parent ∧ d.nodes parent = some .directory ∧
        d.locate path = d.follow parent last := by
  obtain ⟨front, last, hpath, hbeside⟩ := segments_besidePath path
  refine ⟨last, fun d place hplace => ?_⟩
  obtain ⟨parsed', hparsed', hwalk⟩ := bind_eq_ok.mp (Disk.locate_of_locateFile hplace)
  have habsolute : decide ((besidePath path).toList.head? = some '/') = decide (path.toList.head? = some '/') :=
    decide_eq_decide.mpr (besidePath_absolute_iff path)
  rw [eq_of_readPath hparsed', hbeside, habsolute] at hwalk
  obtain ⟨parent, hparent, hlast⟩ := bind_eq_ok.mp ((List.foldlM_append ..).symm.trans hwalk)
  obtain ⟨hdir, hplace'⟩ := follow_compact ((bind_pure (d.follow parent _)).symm.trans hlast)
  refine ⟨parent, hplace', hdir, ?_⟩
  unfold Disk.locate Disk.walk
  rw [hparsed, eq_of_readPath hparsed, hpath]
  show List.foldlM d.follow _ (front ++ [last]) = _
  rw [List.foldlM_append, hparent]
  exact bind_pure (d.follow parent last)

def Aside (path : String) (d d' : Disk) : Prop :=
  d' = d ∨ ∃ place, d.locateFile (besidePath path) = .ok place ∧ d.Later d' ∧ Disk.Apart place d d'

namespace Aside

theorem spares (h : Aside path d d') : d'.locate path = d.locate path ∧ ∀ p, d.locate path = .ok p →
    d'.nodes p = d.nodes p ∧ ∀ n, d'.Proper → d.nodes p = some (.file n) → d'.contents n = d.contents n := by
  rcases h with rfl | ⟨place, hplace, hlater, hapart⟩
  · exact ⟨rfl, fun p _ => ⟨rfl, fun n _ _ => rfl⟩⟩
  · cases hparsed : readPath path with
    | error cause =>
      have hlocate : ∀ d : Disk, d.locate path = .error cause := fun d => by
        unfold Disk.locate
        rw [hparsed]
        rfl
      refine ⟨(hlocate d').trans (hlocate d).symm, fun p hp => ?_⟩
      rw [hlocate d] at hp
      cases hp
    | ok parsed =>
      obtain ⟨last, hlast⟩ := exists_last_name hparsed
      obtain ⟨parent, rfl, hdir, hlocate⟩ := hlast d place hplace
      obtain ⟨parent', heq, hdir', hlocate'⟩ := hlast d' _ (hlater.locateFile hplace)
      cases (List.cons.inj heq).2
      have hfollow : d'.follow parent last = d.follow parent last := by
        unfold Disk.follow
        rw [hdir, hdir']
      rw [hlocate, hlocate', hfollow]
      refine ⟨rfl, fun p hp => ?_⟩
      have hne := follow_ne_compact hp
      exact ⟨hapart.nodes p hne, fun n hd' hfile => hapart.contents_of_file hd' hne hfile⟩

theorem readFile (h : Aside path d d') (hd' : d'.Proper) :
    ((Disk.readFile path).run d').outcome = ((Disk.readFile path).run d).outcome := by
  obtain ⟨hlocate, hspared⟩ := h.spares
  show (Disk.readFile path d').outcome = (Disk.readFile path d).outcome
  unfold Disk.readFile
  rw [hlocate]
  cases hplace : d.locate path with
  | error cause => rfl
  | ok p =>
    obtain ⟨hnode, hcontents⟩ := hspared p hplace
    dsimp only
    rw [hnode]
    cases hfile : d.nodes p with
    | none => rfl
    | some node =>
      cases node with
      | directory => rfl
      | file n => exact congrArg Except.ok (hcontents n hd' hfile)

theorem holds (h : Aside path d d') (hholds : d.Holds path n) : d'.Holds path n := by
  obtain ⟨place, hplace, hfile⟩ := hholds
  have hlater : d.Later d' := by
    rcases h with rfl | ⟨-, -, hlater, -⟩
    · exact .refl d'
    · exact hlater
  have hnode := (h.spares.2 place (Disk.locate_of_locateFile hplace)).1
  exact ⟨place, hlater.locateFile hplace, hnode.trans hfile⟩

end Aside

theorem readLog_state (path : String) (d : Disk) : ((readLog path).run d).state = d := by
  obtain ⟨outcome, d₁, ⟨-, hread⟩, hrest⟩ := Action.ends_attempt_bind.mp (Action.ends_run (readLog path) d)
  rw [Disk.readFile_state] at hread
  subst hread
  cases outcome with
  | error cause =>
    dsimp only at hrest
    split at hrest
    · exact (Action.ends_pure.mp hrest).2
    · exact (Action.ends_fail.mp hrest).2
  | ok content =>
    have hpure := Action.ends_emitAll_bind.mp hrest
    exact (Action.ends_pure.mp hpure).2

theorem readLog_outcome (path : String) (d : Disk) : ((readLog path).run d).outcome =
    match ((Disk.readFile path).run d).outcome with
    | .error cause => if cause = .notFound then .ok Log.empty else .error (.io cause)
    | .ok content => .ok (Log.ofBytes content) := by
  obtain ⟨outcome, d₁, ⟨houtcome, -⟩, hrest⟩ := Action.ends_attempt_bind.mp (Action.ends_run (readLog path) d)
  rw [houtcome]
  cases outcome with
  | error cause =>
    dsimp only at hrest ⊢
    split at hrest
    · next hmissing =>
      rw [if_pos hmissing]
      exact (Action.ends_pure.mp hrest).1
    · next hfound =>
      rw [if_neg hfound]
      exact (Action.ends_fail.mp hrest).1
  | ok content =>
    have hpure := Action.ends_emitAll_bind.mp hrest
    exact (Action.ends_pure.mp hpure).1

theorem compactLog_maintains (path : String) : (compactLog path).Maintains Disk.Proper := by
  have hread : (readLog path).Maintains Disk.Proper := Action.maintains_of_state_eq fun d _ => readLog_state path d
  have hopen : (Disk.openFile path).Maintains Disk.Proper := Disk.openFile_maintains path
  refine hread.bind fun log => ?_
  refine ((Disk.writeFile_maintains (besidePath path) log.toBytes).mapError StoreError.io).bind fun _ => ?_
  refine ((Disk.rename_maintains (besidePath path) path).mapError StoreError.io).bind fun _ => ?_
  refine (hopen.mapError StoreError.io).bind fun n => ?_
  exact fun d hd => hd

theorem openLog_maintains (path : String) : (openLog path).Maintains Disk.Proper :=
  ((Disk.openFile_maintains path).mapError StoreError.io).bind fun _ => compactLog_maintains path

/-- Once the new log has the name of the old one, nothing can fail any more. -/
theorem compactLog_fails {cause : StoreError} (h : (compactLog path).Ends d (.error cause) d') : Aside path d d' := by
  rcases Action.ends_bind.mp h with ⟨log, d₁, hread, hrest⟩ | ⟨cause', hread, -⟩
  · obtain ⟨rfl, -⟩ := readLog_ok hread
    rcases Action.ends_bind.mp hrest with ⟨done, d₂, hwrite, hrest⟩ | ⟨cause', hwrite, -⟩
    · have hwritten := Action.ends_mapError_ok.mp hwrite
      obtain ⟨-, k, hbeside, -⟩ := Disk.writeFile_ends hwritten
      rcases Action.ends_bind.mp hrest with ⟨done, d₃, hrename, hrest⟩ | ⟨cause', hrename, -⟩
      · obtain ⟨-, hrenamed, -⟩ := Disk.rename_ends hbeside (Action.ends_mapError_ok.mp hrename)
        obtain ⟨m, d₄, hopen⟩ := Disk.openFile_of_writable hrenamed.writable
        have hnoted := (Action.ends_mapError_ok.mpr hopen).bind_iff.mp hrest
        have hpure := Action.ends_emit_bind.mp hnoted
        cases (Action.ends_pure.mp hpure).1
      · obtain ⟨r, hrenamed, heq⟩ := Action.ends_mapError.mp hrename
        rcases Disk.rename_cases hrenamed with ⟨-, -, hd'⟩ | ⟨-, -, -, rfl, -⟩
        · rw [hd']
          exact Disk.writeFile_apart hwritten
        · cases heq
    · obtain ⟨r, hwritten, -⟩ := Action.ends_mapError.mp hwrite
      exact Disk.writeFile_apart hwritten
  · exact .inl ((readLog_state path d).symm.trans hread.2).symm

theorem openLog_fails {cause : StoreError} (h : (openLog path).Ends d (.error cause) d') :
    Aside path d d' ∨ ∃ n d₁, (Disk.openFile path).Ends d (.ok n) d₁ ∧ Aside path d₁ d' := by
  rcases Action.ends_bind.mp h with ⟨n, d₁, hopen, hrest⟩ | ⟨cause', hopen, -⟩
  · exact .inr ⟨n, d₁, Action.ends_mapError_ok.mp hopen, compactLog_fails hrest⟩
  · obtain ⟨r, hopened, heq⟩ := Action.ends_mapError.mp hopen
    rcases Disk.openFile_cases hopened with ⟨-, -, hd'⟩ | ⟨_, _, rfl, -⟩ | ⟨_, rfl, -⟩
    · exact .inl (.inl hd')
    · cases heq
    · cases heq

/-- What is found under a path is what was found before, but that an empty file may have been put where none was. -/
def Kept (path : String) (d d' : Disk) : Prop :=
  ((Disk.readFile path).run d').outcome = ((Disk.readFile path).run d).outcome ∨
    ((Disk.readFile path).run d).outcome = .error .notFound ∧ ((Disk.readFile path).run d').outcome = .ok []

namespace Kept

theorem trans (h : Kept path d d') (h' : Kept path d' d'') : Kept path d d'' := by
  rcases h with heq | ⟨hmissing, hempty⟩ <;> rcases h' with heq' | ⟨hmissing', hempty'⟩
  · exact .inl (heq'.trans heq)
  · exact .inr ⟨heq.symm.trans hmissing', hempty'⟩
  · exact .inr ⟨hmissing, heq'.trans hempty⟩
  · rw [hempty] at hmissing'
    cases hmissing'

theorem readLog (h : Kept path d d') : ((readLog path).run d').outcome = ((FileStore.readLog path).run d).outcome := by
  rw [readLog_outcome, readLog_outcome]
  rcases h with heq | ⟨hmissing, hempty⟩
  · rw [heq]
  · rw [hmissing, hempty]
    rfl

theorem content? (h : Kept path d d') :
    d'.content? path = d.content? path ∨ d.content? path = none ∧ d'.content? path = some [] := by
  unfold Disk.content?
  rcases h with heq | ⟨hmissing, hempty⟩
  · exact .inl (congrArg Except.toOption heq)
  · exact .inr ⟨congrArg Except.toOption hmissing, congrArg Except.toOption hempty⟩

end Kept

theorem kept_of_openFile (h : (Disk.openFile path).Ends d (.ok n) d') : Kept path d d' := by
  rcases Disk.openFile_cases h with ⟨_, heq, -⟩ | ⟨_, _, -, -, -, rfl⟩ | ⟨place, -, hplace, hfree, -⟩
  · cases heq
  · exact .inl rfl
  · obtain ⟨hholds, -, hcontents⟩ := Disk.openFile_ends h
    have hmissing : ((Disk.readFile path).run d).outcome = .error .notFound := by
      show (Disk.readFile path d).outcome = _
      unfold Disk.readFile
      rw [Disk.locate_of_locateFile hplace]
      dsimp only
      rw [hfree]
    have hnone : d.content? path = none := congrArg Except.toOption hmissing
    rw [hnone] at hcontents
    exact .inr ⟨hmissing, (Disk.readFile_of_holds hholds).1.trans (congrArg Except.ok hcontents)⟩

theorem openLog_fails_kept {cause : StoreError} (hd : d.Proper) (h : (openLog path).Ends d (.error cause) d') :
    Kept path d d' := by
  have hd' : d'.Proper := h.2 ▸ openLog_maintains path d hd
  rcases openLog_fails h with haside | ⟨n, d₁, hopen, haside⟩
  · exact .inl (haside.readFile hd')
  · exact (kept_of_openFile hopen).trans (.inl (haside.readFile hd'))

theorem relog_fails {f : String → Action StoreError Disk Nat} {cause : StoreError}
    (h : (do let s ← Action.state; let log ← onDisk (f s.path); Action.modify fun s => { s with log } :
      Action StoreError FileStore Unit).Ends s (.error cause) s') :
    ∃ d', (f s.path).Ends s.disk (.error cause) d' ∧ s' = { s with disk := d' } := by
  have hrest := Action.ends_state_bind.mp h
  rcases Action.ends_bind.mp hrest with ⟨n, s₂, -, hset⟩ | ⟨cause', hdisk, heq⟩
  · cases (Action.ends_modify.mp hset).1
  · cases heq
    exact Action.ends_onPart.mp hdisk

/-- An attempt to open, compact or open again the log under a path fails. -/
inductive Fails (path : String) : Disk → Disk → Prop where
  | opening {d d' : Disk} {cause : StoreError} (h : (openLog path).Ends d (.error cause) d') : Fails path d d'
  | compacting {s s' : FileStore} {cause : StoreError} (hpath : s.path = path) (h : compact.Ends s (.error cause) s') :
      Fails path s.disk s'.disk
  | reopening {s s' : FileStore} {cause : StoreError} (hpath : s.path = path) (h : reopen.Ends s (.error cause) s') :
      Fails path s.disk s'.disk

theorem Fails.kept (h : Fails path d d') (hd : d.Proper) : d'.Proper ∧ Kept path d d' := by
  cases h with
  | opening h => exact ⟨h.2 ▸ openLog_maintains path d hd, openLog_fails_kept hd h⟩
  | compacting hpath h =>
    obtain ⟨d', hlog, rfl⟩ := relog_fails h
    subst hpath
    have hd' : d'.Proper := hlog.2 ▸ compactLog_maintains _ _ hd
    exact ⟨hd', .inl ((compactLog_fails hlog).readFile hd')⟩
  | reopening hpath h =>
    obtain ⟨d', hlog, rfl⟩ := relog_fails h
    subst hpath
    exact ⟨hlog.2 ▸ openLog_maintains _ _ hd, openLog_fails_kept hd hlog⟩

theorem kept_of_fails (hd : d.Proper) (h : Relation.ReflTransGen (Fails path) d d') : d'.Proper ∧ Kept path d d' := by
  induction h with
  | refl => exact ⟨hd, .inl rfl⟩
  | tail _ hfail ih =>
    obtain ⟨hproper, hkept⟩ := ih
    obtain ⟨hproper', hkept'⟩ := hfail.kept hproper
    exact ⟨hproper', hkept.trans hkept'⟩

theorem openFile_of_holds (h : d.Holds path n) : (Disk.openFile path).Ends d (.ok n) d := by
  obtain ⟨place, hplace, hfile⟩ := h
  have hrun : (Disk.openFile path).run d = ⟨.ok n, d, []⟩ := by
    simp only [Action.run, Disk.openFile, hplace, hfile]
  exact ⟨by rw [hrun], by rw [hrun]⟩

theorem compact_holds {r : Except StoreError Unit} (h : s.disk.Holds s.path s.log) (hends : compact.Ends s r s') :
    s'.disk.Holds s'.path s'.log := by
  cases r with
  | ok done => exact (compact_ends hends).ready.holds
  | error cause =>
    obtain ⟨d', hlog, rfl⟩ := relog_fails hends
    exact (compactLog_fails hlog).holds h

theorem reopen_holds {r : Except StoreError Unit} (h : s.disk.Holds s.path s.log) (hends : reopen.Ends s r s') :
    s'.disk.Holds s'.path s'.log := by
  cases r with
  | ok done => exact (reopen_ends hends).rewritten.ready.holds
  | error cause =>
    obtain ⟨d', hlog, rfl⟩ := relog_fails hends
    rcases openLog_fails hlog with haside | ⟨n, d₁, hopen, haside⟩
    · exact haside.holds h
    · obtain ⟨-, rfl⟩ := hopen.unique (openFile_of_holds h)
      exact haside.holds h

theorem move_maintains_holds (move : Move) :
    move.onFile.Maintains fun s : FileStore => s.disk.Holds s.path s.log := by
  intro s h
  cases move with
  | call call =>
    obtain ⟨done, happend, -⟩ := perform_writes h (Action.ends_run call.perform s)
    obtain ⟨r, d', hput, -, hs'⟩ := append_iff.mp happend
    obtain ⟨hlater, hnodes, -⟩ := Disk.append_leaves hput
    show (call.perform.run s).state.disk.Holds (call.perform.run s).state.path (call.perform.run s).state.log
    rw [hs']
    exact h.of_nodes_eq hlater hnodes
  | compact =>
    obtain ⟨r, hends, -⟩ := Action.ends_map.mp (Action.ends_run Move.compact.onFile s)
    exact compact_holds h hends
  | reopen =>
    obtain ⟨r, hends, -⟩ := Action.ends_map.mp (Action.ends_run Move.reopen.onFile s)
    exact reopen_holds h hends

theorem Opens.holds_after (h : Opens path d s) (moves : List Move) :
    let after := (Action.each Move.onFile moves s).2
    after.disk.Holds after.path after.log :=
  Action.each_invariant (P := fun s : FileStore => s.disk.Holds s.path s.log) move_maintains_holds moves
    h.rewritten.ready.holds

theorem Opens.alike {c c' : Disk} (h : Opens path c s) (h' : Opens path c' s')
    (hcontent : (c'.content? path).getD [] = (c.content? path).getD []) :
    s'.disk.content? path = s.disk.content? path ∧ Alike s s' := by
  refine ⟨?_, (h.rewritten.ready.alike h'.rewritten.ready ?_).1⟩
  · rw [(Renews.opened h).content, (Renews.opened h').content, hcontent]
  · rw [h.rewritten.logOf_eq, h'.rewritten.logOf_eq, hcontent]

/-- However often opening or compacting a log fails, and wherever, the log is read as before: the same entries in the same
order, and the same lines that are no record. A log that was not there may be there afterwards, and is empty. Whatever
becomes of the rest of the disk, a store that is opened later holds the same bytes and gives the same answers as one that
is opened on the log as it was. -/
theorem failing_loses_nothing (hd : d.Proper) (h : Relation.ReflTransGen (Fails path) d d') :
    ((readLog path).run d').outcome = ((readLog path).run d).outcome ∧
      (d'.content? path = d.content? path ∨ d.content? path = none ∧ d'.content? path = some []) ∧
      ∀ (c c' : Disk) (s s' : FileStore), c.content? path = d.content? path → c'.content? path = d'.content? path →
        Opens path c s → Opens path c' s' → s'.disk.content? path = s.disk.content? path ∧ Alike s s' := by
  obtain ⟨-, hkept⟩ := kept_of_fails hd h
  refine ⟨hkept.readLog, hkept.content?, fun c c' s s' hc hc' hs hs' => hs.alike hs' ?_⟩
  rw [hc, hc']
  rcases hkept.content? with heq | ⟨hnone, hempty⟩
  · rw [heq]
  · rw [hnone, hempty]
    rfl

/-- A disk that is full after the first byte of the file beside the log. -/
def narrowDisk : Disk := { notedDisk with tears := [some ⟨1, .system 28⟩] }

theorem narrowDisk_proper : narrowDisk.Proper :=
  ((Disk.proper_blank []).create ["log"]).of_nodes_eq rfl rfl

def narrowDiskAfter : Disk := ((openLog "log").run narrowDisk).state

theorem narrowDisk_fails : Fails "log" narrowDisk narrowDiskAfter ∧
    narrowDiskAfter.content? "log.compact" = some [120] := by
  have hends : (openLog "log").Ends narrowDisk (.error (.io (.system 28))) narrowDiskAfter := ⟨rfl, rfl⟩
  exact ⟨.opening hends, rfl⟩

theorem narrowDiskAfter_opens : ∃ s, Opens "log" narrowDiskAfter s := by
  refine exists_opens ⟨["log"], rfl, ?_⟩ ⟨["log.compact"], rfl, ?_⟩ fun tear htear => ?_
  · exact nofun
  · exact nofun
  · cases (show tear ∈ ([] : List (Option Tear)) from htear)

theorem narrowDisk_loses_nothing : Relation.ReflTransGen (Fails "log") narrowDisk narrowDiskAfter ∧
    narrowDiskAfter.content? "log.compact" = some [120] ∧
    ((readLog "log").run narrowDiskAfter).outcome = ((readLog "log").run narrowDisk).outcome ∧
    ∃ s s', Opens "log" notedDisk s ∧ Opens "log" narrowDiskAfter s' ∧
      s'.disk.content? "log" = s.disk.content? "log" ∧ Alike s s' := by
  obtain ⟨hfails, hbeside⟩ := narrowDisk_fails
  have hattempts : Relation.ReflTransGen (Fails "log") narrowDisk narrowDiskAfter := .single hfails
  obtain ⟨hread, -, hlater⟩ := failing_loses_nothing narrowDisk_proper hattempts
  obtain ⟨s, hs⟩ := notedDisk_opens
  obtain ⟨s', hs'⟩ := narrowDiskAfter_opens
  exact ⟨hattempts, hbeside, hread, s, s', hs, hs', hlater notedDisk narrowDiskAfter s s' rfl rfl hs hs'⟩

end FileStore
end ShortLinks
