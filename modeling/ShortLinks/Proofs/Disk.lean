import ShortLinks.Disk
import ShortLinks.Proofs.Action
import ShortLinks.Proofs.Outcome

/-!
# Paths and files

Where a path leads depends on the directories alone, so it stays the same while files come and go. The operations on
files are described by what they find and what they leave.
-/

set_option autoImplicit false

namespace ShortLinks.Disk

variable {d d' d'' : Disk} {path name : String} {place place' : Place} {n : Nat} {bytes : Bytes}

def Steady (d : Disk) : Prop := ∀ tear ∈ d.tears, tear = none

/-- What operations on files leave as it is: the directories, and that writes succeed. -/
structure Later (d d' : Disk) : Prop where
  start : d'.start = d.start
  directory_iff (place : Place) : d'.nodes place = some .directory ↔ d.nodes place = some .directory
  steady : d.Steady → d'.Steady

namespace Later

theorem refl (d : Disk) : d.Later d := ⟨rfl, fun _ => .rfl, id⟩

theorem trans (h : d.Later d') (h' : d'.Later d'') : d.Later d'' where
  start := h'.start.trans h.start
  directory_iff place := (h'.directory_iff place).trans (h.directory_iff place)
  steady hd := h'.steady (h.steady hd)

theorem follow (h : d.Later d') (hf : d.follow place name = .ok place') :
    d'.follow place name = .ok place' := by
  unfold Disk.follow at hf ⊢
  split at hf
  · cases hf
  · cases hf
  · next hdir =>
    rw [(h.directory_iff place).mpr hdir]
    exact hf

theorem foldlM_follow (h : d.Later d') {names : List String}
    (hf : names.foldlM d.follow place = .ok place') : names.foldlM d'.follow place = .ok place' := by
  induction names generalizing place with
  | nil => exact hf
  | cons name names ih =>
    rw [List.foldlM_cons] at hf ⊢
    obtain ⟨next, hnext, hrest⟩ := bind_eq_ok.mp hf
    exact bind_eq_ok.mpr ⟨next, h.follow hnext, ih hrest⟩

theorem walk (h : d.Later d') {path : Path} (hw : d.walk path = .ok place) :
    d'.walk path = .ok place := by
  unfold Disk.walk at hw ⊢
  rw [h.start]
  exact h.foldlM_follow hw

theorem locateFile (h : d.Later d') (hl : d.locateFile path = .ok place) :
    d'.locateFile path = .ok place := by
  unfold Disk.locateFile at hl ⊢
  obtain ⟨parsed, hparsed, hl⟩ := bind_eq_ok.mp hl
  refine bind_eq_ok.mpr ⟨parsed, hparsed, ?_⟩
  dsimp only at hl ⊢
  split at hl
  · cases hl
  · next last hlast =>
    obtain ⟨parent, hparent, hl⟩ := bind_eq_ok.mp hl
    obtain ⟨found, hfound, hl⟩ := bind_eq_ok.mp hl
    exact bind_eq_ok.mpr ⟨parent, h.walk hparent, bind_eq_ok.mpr ⟨found, h.follow hfound, hl⟩⟩

end Later

theorem locate_of_locateFile (h : d.locateFile path = .ok place) : d.locate path = .ok place := by
  obtain ⟨parsed, hparsed, h⟩ := bind_eq_ok.mp h
  refine bind_eq_ok.mpr ⟨parsed, hparsed, ?_⟩
  dsimp only at h
  split at h
  · cases h
  · next last hlast =>
    obtain ⟨parent, hparent, h⟩ := bind_eq_ok.mp h
    obtain ⟨found, hfound, h⟩ := bind_eq_ok.mp h
    split at h
    · cases h
    · next hall =>
      cases h
      have hnames : (parsed.names.reverse.dropWhile (· == "")).reverse = parsed.names := by
        rw [List.reverse_eq_iff]
        refine (List.dropWhile_sublist _).eq_of_length_le ?_
        rw [List.length_reverse] at hall ⊢
        omega
      rw [hnames] at hparent hfound hlast
      rw [if_neg (by simp)] at hfound
      obtain ⟨front, hfront⟩ := List.getLast?_eq_some_iff.mp hlast
      unfold Disk.walk at hparent ⊢
      rw [hfront, List.foldlM_append]
      rw [hfront, List.dropLast_concat] at hparent
      exact bind_eq_ok.mpr ⟨parent, hparent, bind_eq_ok.mpr ⟨place, hfound, rfl⟩⟩

def Holds (d : Disk) (path : String) (n : Nat) : Prop :=
  ∃ place, d.locateFile path = .ok place ∧ d.nodes place = some (.file n)

def Writable (d : Disk) (path : String) : Prop :=
  ∃ place, d.locateFile path = .ok place ∧ d.nodes place ≠ some .directory

theorem Holds.writable (h : d.Holds path n) : d.Writable path := by
  obtain ⟨place, hplace, hfile⟩ := h
  refine ⟨place, hplace, ?_⟩
  rw [hfile]
  intro hdir
  cases hdir

theorem Writable.later (h : d.Writable path) (hlater : d.Later d') : d'.Writable path := by
  obtain ⟨place, hplace, hdir⟩ := h
  exact ⟨place, hlater.locateFile hplace, fun h => hdir ((hlater.directory_iff place).mp h)⟩

theorem later_setContents (d : Disk) (n : Nat) (bytes : Bytes) : d.Later (d.setContents n bytes) :=
  ⟨rfl, fun _ => .rfl, id⟩

theorem later_setNode {node : Option Node} (hold : d.nodes place ≠ some .directory) (hnew : node ≠ some .directory) :
    d.Later (d.setNode place node) := by
  refine ⟨rfl, fun p => ?_, id⟩
  show (if p = place then node else d.nodes p) = some .directory ↔ _
  split
  · next hp =>
    rw [hp]
    exact iff_of_false hnew hold
  · rfl

theorem Holds.setContents (h : d.Holds path n) (m : Nat) (bytes : Bytes) : (d.setContents m bytes).Holds path n := by
  obtain ⟨place, hplace, hfile⟩ := h
  exact ⟨place, (later_setContents d m bytes).locateFile hplace, hfile⟩

theorem Holds.of_nodes_eq (h : d.Holds path n) (hlater : d.Later d') (hnodes : d'.nodes = d.nodes) : d'.Holds path n := by
  obtain ⟨place, hplace, hfile⟩ := h
  refine ⟨place, hlater.locateFile hplace, ?_⟩
  rw [hnodes]
  exact hfile

theorem readFile_of_holds (h : d.Holds path n) : (readFile path).Ends d (.ok (d.contents n)) d := by
  obtain ⟨place, hplace, hfile⟩ := h
  have hrun : (readFile path).run d = ⟨.ok (d.contents n), d, []⟩ := by
    show readFile path d = _
    unfold readFile
    rw [locate_of_locateFile hplace]
    dsimp only
    rw [hfile]
  rw [Action.Ends, hrun]
  exact ⟨rfl, rfl⟩

theorem content?_of_holds (h : d.Holds path n) : d.content? path = some (d.contents n) := by
  show ((readFile path).run d).outcome.toOption = _
  rw [(readFile_of_holds h).1]
  rfl

theorem readFile_state (path : String) (d : Disk) : ((readFile path).run d).state = d := by
  show (readFile path d).state = d
  unfold readFile
  split
  · rfl
  · split <;> rfl

theorem openFile_ends (h : (openFile path).Ends d (.ok n) d') :
    d'.Holds path n ∧ d.Later d' ∧ d'.contents n = (d.content? path).getD [] := by
  obtain ⟨houtcome, hstate⟩ := h
  change (openFile path d).outcome = .ok n at houtcome
  change (openFile path d).state = d' at hstate
  unfold openFile at houtcome hstate
  split at houtcome
  · cases houtcome
  · next place hplace =>
    rw [hplace] at hstate
    dsimp only at hstate
    split at houtcome
    · next m hfile =>
      rw [hfile] at hstate
      cases houtcome
      cases hstate
      have hholds : d.Holds path n := ⟨place, hplace, hfile⟩
      exact ⟨hholds, .refl d, by rw [content?_of_holds hholds, Option.getD_some]⟩
    · cases houtcome
    · next hnone =>
      rw [hnone] at hstate
      cases houtcome
      cases hstate
      have hmade : d.Later (d.setNode place (some (.file d.next))) := later_setNode (by rw [hnone]; exact nofun) nofun
      have hlater : d.Later (d.create place) := ⟨rfl, hmade.directory_iff, id⟩
      refine ⟨⟨place, hlater.locateFile hplace, if_pos rfl⟩, hlater, ?_⟩
      have hmissing : d.content? path = none := by
        show (readFile path d).outcome.toOption = none
        unfold readFile
        rw [locate_of_locateFile hplace]
        dsimp only
        rw [hnone]
        rfl
      rw [hmissing]
      exact if_pos rfl

theorem openFile_of_writable (h : d.Writable path) : ∃ n d', (openFile path).Ends d (.ok n) d' := by
  obtain ⟨place, hplace, hdir⟩ := h
  cases hnode : d.nodes place with
  | none =>
    have hrun : (openFile path).run d = ⟨.ok d.next, d.create place, []⟩ := by
      simp only [Action.run, openFile, hplace, hnode]
    exact ⟨d.next, d.create place, by rw [hrun], by rw [hrun]⟩
  | some node =>
    cases node with
    | directory => exact absurd hnode hdir
    | file n =>
      have hrun : (openFile path).run d = ⟨.ok n, d, []⟩ := by
        simp only [Action.run, openFile, hplace, hnode]
      exact ⟨n, d, by rw [hrun], by rw [hrun]⟩

theorem append_ends (h : (append n bytes).Ends d (.ok ()) d') :
    d.Later d' ∧ d'.nodes = d.nodes ∧ d'.contents n = d.contents n ++ bytes := by
  obtain ⟨houtcome, hstate⟩ := h
  change (append n bytes d).outcome = .ok () at houtcome
  change (append n bytes d).state = d' at hstate
  unfold append at houtcome hstate
  split at houtcome
  · next hempty =>
    rw [if_pos hempty] at hstate
    cases hstate
    exact ⟨.refl d, rfl, by rw [hempty, List.append_nil]⟩
  · next hsome =>
    rw [if_neg hsome] at hstate
    split at houtcome
    · next htear =>
      dsimp only at hstate
      rw [htear] at hstate
      cases hstate
      exact ⟨⟨rfl, fun _ => .rfl, fun hd tear ht => hd tear (List.mem_of_mem_tail ht)⟩, rfl, if_pos rfl⟩
    · cases houtcome

theorem append_leaves {r : Except IoError Unit} (h : (append n bytes).Ends d r d') :
    d.Later d' ∧ d'.nodes = d.nodes ∧ ∃ k, d'.contents n = d.contents n ++ bytes.take k := by
  cases r with
  | ok done =>
    obtain ⟨hlater, hnodes, hcontents⟩ := append_ends h
    exact ⟨hlater, hnodes, bytes.length, by rw [hcontents, List.take_length]⟩
  | error cause =>
    obtain ⟨houtcome, hstate⟩ := h
    change (append n bytes d).outcome = .error cause at houtcome
    change (append n bytes d).state = d' at hstate
    unfold append at houtcome hstate
    split at houtcome
    · cases houtcome
    · next hsome =>
      rw [if_neg hsome] at hstate
      split at houtcome
      · cases houtcome
      · next tear htear =>
        dsimp only at hstate
        rw [htear] at hstate
        cases hstate
        exact ⟨⟨rfl, fun _ => .rfl, fun hd tear ht => hd tear (List.mem_of_mem_tail ht)⟩, rfl, tear.written, if_pos rfl⟩

theorem append_torn {tear : Tear} {tears : List (Option Tear)} (h : d.tears = some tear :: tears) (hbytes : bytes ≠ []) :
    (append n bytes).Ends d (.error tear.cause)
      ({ d with tears }.setContents n (d.contents n ++ bytes.take tear.written)) := by
  have hrun : (append n bytes).run d =
      ⟨.error tear.cause, { d with tears }.setContents n (d.contents n ++ bytes.take tear.written), []⟩ := by
    show append n bytes d = _
    unfold append
    rw [if_neg hbytes, h]
    rfl
  rw [Action.Ends, hrun]
  exact ⟨rfl, rfl⟩

theorem append_of_steady (h : d.Steady) (n : Nat) (bytes : Bytes) : ∃ d', (append n bytes).Ends d (.ok ()) d' := by
  have htear : d.tears.head?.join = none := by
    cases htears : d.tears with
    | nil => rfl
    | cons tear tears => exact h tear (htears ▸ List.mem_cons_self)
  refine ⟨((append n bytes).run d).state, ?_, rfl⟩
  show (append n bytes d).outcome = _
  unfold append
  split
  · rfl
  · rw [htear]

theorem writeFile_ends (h : (writeFile path bytes).Ends d (.ok ()) d') :
    d.Later d' ∧ ∃ n, d'.Holds path n ∧ d'.contents n = bytes := by
  obtain ⟨n, d₁, hopen, h⟩ := Action.ends_bind_ok.mp h
  obtain ⟨done, d₂, htruncate, happend⟩ := Action.ends_bind_ok.mp h
  obtain ⟨-, rfl⟩ := Action.ends_modify.mp htruncate
  obtain ⟨hholds, hlater, -⟩ := openFile_ends hopen
  obtain ⟨hlater', hnodes, hcontents⟩ := append_ends happend
  refine ⟨(hlater.trans (later_setContents d₁ n [])).trans hlater', n,
    (hholds.setContents n []).of_nodes_eq hlater' hnodes, ?_⟩
  rw [hcontents]
  show (if n = n then [] else d₁.contents n) ++ bytes = bytes
  rw [if_pos rfl, List.nil_append]

theorem writeFile_of_writable (h : d.Writable path) (hd : d.Steady) (bytes : Bytes) :
    ∃ d', (writeFile path bytes).Ends d (.ok ()) d' := by
  obtain ⟨n, d₁, hopen⟩ := openFile_of_writable h
  obtain ⟨-, hlater, -⟩ := openFile_ends hopen
  obtain ⟨d', happend⟩ := append_of_steady ((later_setContents d₁ n []).steady (hlater.steady hd)) n bytes
  exact ⟨d', hopen.bind (Action.Ends.bind (Action.ends_modify.mpr ⟨rfl, rfl⟩) happend)⟩

theorem rename_ends {old new : String} (hold : d.Holds old n) (h : (rename old new).Ends d (.ok ()) d') :
    d.Later d' ∧ d'.Holds new n ∧ d'.contents = d.contents := by
  obtain ⟨source, hsource, hfile⟩ := hold
  obtain ⟨houtcome, hstate⟩ := h
  change (rename old new d).outcome = .ok () at houtcome
  change (rename old new d).state = d' at hstate
  unfold rename at houtcome hstate
  rw [locate_of_locateFile hsource] at houtcome hstate
  cases htarget : d.locateFile new with
  | error e =>
    rw [htarget] at houtcome
    cases houtcome
  | ok target =>
    rw [htarget] at houtcome hstate
    dsimp only at houtcome hstate
    rw [hfile] at houtcome hstate
    by_cases hdir : d.nodes target = some .directory
    · rw [hdir] at houtcome
      cases houtcome
    · have hd' : d' = (d.setNode source none).setNode target (some (.file n)) := by
        rw [← hstate]
        cases hnode : d.nodes target with
        | none => rfl
        | some node =>
          cases node with
          | directory => exact absurd hnode hdir
          | file m => rfl
      have hremoved : d.Later (d.setNode source none) := later_setNode (by rw [hfile]; exact nofun) nofun
      have hlater : d.Later d' := by
        rw [hd']
        refine hremoved.trans (later_setNode ?_ nofun)
        exact fun h => hdir ((hremoved.directory_iff target).mp h)
      refine ⟨hlater, ⟨target, hlater.locateFile htarget, ?_⟩, by rw [hd']; rfl⟩
      rw [hd']
      exact if_pos rfl

theorem rename_of_writable {old new : String} (hold : d.Holds old n) (hnew : d.Writable new) :
    ∃ d', (rename old new).Ends d (.ok ()) d' := by
  obtain ⟨source, hsource, hfile⟩ := hold
  obtain ⟨target, htarget, hdir⟩ := hnew
  refine ⟨((rename old new).run d).state, ?_, rfl⟩
  show (rename old new d).outcome = _
  unfold rename
  rw [locate_of_locateFile hsource, htarget]
  dsimp only
  rw [hfile]
  cases hnode : d.nodes target with
  | none => rfl
  | some node =>
    cases node with
    | directory => exact absurd hnode hdir
    | file m => rfl

theorem readFile_silent (path : String) (d : Disk) : ((readFile path).run d).events = [] := by
  show (readFile path d).events = []
  unfold readFile
  split
  · rfl
  · split <;> rfl

theorem inspect_state (path : String) (d : Disk) : ((inspect path).run d).state = d := by
  show (inspect path d).state = d
  unfold inspect
  split
  · rfl
  · split <;> rfl

theorem append_silent (n : Nat) (bytes : Bytes) (d : Disk) : ((append n bytes).run d).events = [] := by
  show (append n bytes d).events = []
  unfold append
  split
  · rfl
  · dsimp only
    split <;> rfl

theorem inspect_silent (path : String) (d : Disk) : ((inspect path).run d).events = [] := by
  show (inspect path d).events = []
  unfold inspect
  split
  · rfl
  · split <;> rfl

end ShortLinks.Disk
