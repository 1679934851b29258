import ShortLinks.Proofs.Disk

/-!
# What operations on files leave alone

On a proper disk a file has one name and a new file gets a number of its own. No operation gives a file a second name,
so what is written under one path changes what is read under no other.
-/

set_option autoImplicit false

namespace ShortLinks.Disk

variable {d d' d'' : Disk} {path : String} {place : Place} {n : Nat} {bytes : Bytes}

theorem openFile_cases {r : Except IoError Nat} (h : (openFile path).Ends d r d') :
    (∃ cause, r = .error cause ∧ d' = d) ∨
    (∃ place n, r = .ok n ∧ d.locateFile path = .ok place ∧ d.nodes place = some (.file n) ∧ d' = d) ∨
    ∃ place, r = .ok d.next ∧ d.locateFile path = .ok place ∧ d.nodes place = none ∧ d' = d.create place := by
  obtain ⟨rfl, rfl⟩ := h
  show (∃ cause, (openFile path d).outcome = .error cause ∧ (openFile path d).state = d) ∨ _
  cases hplace : d.locateFile path with
  | error cause =>
    refine .inl ⟨cause, ?_⟩
    simp only [openFile, hplace, and_self]
  | ok place =>
    cases hnode : d.nodes place with
    | none =>
      refine .inr (.inr ⟨place, ?_, rfl, hnode, ?_⟩)
      · simp only [Action.run, openFile, hplace, hnode]
      · simp only [Action.run, openFile, hplace, hnode]
    | some node =>
      cases node with
      | directory =>
        refine .inl ⟨.isDirectory, ?_⟩
        simp only [openFile, hplace, hnode, and_self]
      | file n =>
        refine .inr (.inl ⟨place, n, ?_, rfl, hnode, ?_⟩)
        · simp only [Action.run, openFile, hplace, hnode]
        · simp only [Action.run, openFile, hplace, hnode]

theorem append_elsewhere {r : Except IoError Unit} (h : (append n bytes).Ends d r d') :
    (∀ m, m ≠ n → d'.contents m = d.contents m) ∧ d'.next = d.next := by
  obtain ⟨-, rfl⟩ := h
  show (∀ m, m ≠ n → (append n bytes d).state.contents m = d.contents m) ∧ (append n bytes d).state.next = d.next
  unfold append
  split
  · exact ⟨fun _ _ => rfl, rfl⟩
  · dsimp only
    split
    · exact ⟨fun m hm => if_neg hm, rfl⟩
    · exact ⟨fun m hm => if_neg hm, rfl⟩

theorem rename_cases {old new : String} {r : Except IoError Unit} (h : (rename old new).Ends d r d') :
    (∃ cause, r = .error cause ∧ d' = d) ∨ ∃ source target n, r = .ok () ∧ d.locate old = .ok source ∧
      d.locateFile new = .ok target ∧ d.nodes source = some (.file n) ∧
      d' = (d.setNode source none).setNode target (some (.file n)) := by
  obtain ⟨rfl, rfl⟩ := h
  show (∃ cause, (rename old new d).outcome = .error cause ∧ (rename old new d).state = d) ∨
    ∃ source target n, (rename old new d).outcome = .ok () ∧ _ ∧ _ ∧ _ ∧ (rename old new d).state = _
  unfold rename
  split
  · exact .inl ⟨_, rfl, rfl⟩
  · exact .inl ⟨_, rfl, rfl⟩
  · next source target hsource htarget =>
    split
    · exact .inl ⟨_, rfl, rfl⟩
    · next n hfile _ => exact .inr ⟨source, target, n, rfl, hsource, htarget, hfile, rfl⟩
    · exact .inl ⟨_, rfl, rfl⟩
    · exact .inl ⟨_, rfl, rfl⟩

/-- Every file has one name, and a number that no new file will get. -/
structure Proper (d : Disk) : Prop where
  numbered (p : Place) (n : Nat) : d.nodes p = some (.file n) → n < d.next
  named (p q : Place) (n : Nat) : d.nodes p = some (.file n) → d.nodes q = some (.file n) → p = q

theorem proper_blank (start : Place) : (blank start).Proper := by
  have hnone : ∀ (p : Place) (n : Nat), (blank start).nodes p ≠ some (.file n) := by
    intro p n h
    change (if p = [] ∨ p <:+ start then some Node.directory else none) = some (.file n) at h
    split at h <;> cases h
  exact ⟨fun p n h => absurd h (hnone p n), fun p _ n h => absurd h (hnone p n)⟩

namespace Proper

theorem of_nodes_eq (h : d.Proper) (hnodes : d'.nodes = d.nodes) (hnext : d'.next = d.next) : d'.Proper := by
  refine ⟨fun p n hp => ?_, fun p q n hp hq => ?_⟩
  · rw [hnext]
    exact h.numbered p n (hnodes ▸ hp)
  · exact h.named p q n (hnodes ▸ hp) (hnodes ▸ hq)

theorem setNode (h : d.Proper) (place : Place) {node : Option Node} (hnode : ∀ n, node ≠ some (.file n)) :
    (d.setNode place node).Proper := by
  have hold : ∀ p n, (d.setNode place node).nodes p = some (.file n) → d.nodes p = some (.file n) := by
    intro p n hp
    change (if p = place then node else d.nodes p) = some (.file n) at hp
    split at hp
    · exact absurd hp (hnode n)
    · exact hp
  exact ⟨fun p n hp => h.numbered p n (hold p n hp), fun p q n hp hq => h.named p q n (hold p n hp) (hold q n hq)⟩

theorem setNode_file (h : d.Proper) (place : Place) (hn : n < d.next) (hfree : ∀ p, d.nodes p ≠ some (.file n)) :
    (d.setNode place (some (.file n))).Proper := by
  have hold : ∀ p m, (d.setNode place (some (.file n))).nodes p = some (.file m) →
      p = place ∧ m = n ∨ d.nodes p = some (.file m) := by
    intro p m hp
    change (if p = place then some (Node.file n) else d.nodes p) = some (.file m) at hp
    split at hp
    · next heq =>
      cases hp
      exact .inl ⟨heq, rfl⟩
    · exact .inr hp
  refine ⟨fun p m hp => ?_, fun p q m hp hq => ?_⟩
  · rcases hold p m hp with ⟨-, rfl⟩ | hp'
    · exact hn
    · exact h.numbered p m hp'
  · rcases hold p m hp with ⟨hplace, rfl⟩ | hp' <;> rcases hold q m hq with ⟨hplace', heq⟩ | hq'
    · rw [hplace, hplace']
    · exact absurd hq' (hfree q)
    · exact absurd (heq ▸ hp') (hfree p)
    · exact h.named p q m hp' hq'

theorem create (h : d.Proper) (place : Place) : (d.create place).Proper := by
  have hcounted : ({ d with next := d.next + 1 } : Disk).Proper :=
    ⟨fun p n hp => Nat.lt_succ_of_lt (h.numbered p n hp), h.named⟩
  have hmade := hcounted.setNode_file place (Nat.lt_succ_self _) fun p hp => Nat.lt_irrefl _ (h.numbered p d.next hp)
  exact hmade.of_nodes_eq rfl rfl

theorem renamed {source target : Place} (h : d.Proper) (hfile : d.nodes source = some (.file n)) :
    ((d.setNode source none).setNode target (some (.file n))).Proper := by
  have hremoved : (d.setNode source none).Proper := h.setNode source nofun
  refine hremoved.setNode_file target (h.numbered source n hfile) fun p hp => ?_
  change (if p = source then none else d.nodes p) = some (.file n) at hp
  split at hp
  · cases hp
  · next hne => exact hne (h.named p source n hp hfile)

end Proper

theorem openFile_maintains (path : String) : (openFile path).Maintains Proper := by
  intro d hd
  rcases openFile_cases (Action.ends_run (openFile path) d) with ⟨-, -, hd'⟩ | ⟨-, -, -, -, -, hd'⟩ | ⟨place, -, -, -, hd'⟩
  · rw [hd']
    exact hd
  · rw [hd']
    exact hd
  · rw [hd']
    exact hd.create place

theorem append_maintains (n : Nat) (bytes : Bytes) : (append n bytes).Maintains Proper := by
  intro d hd
  have hends := Action.ends_run (append n bytes) d
  exact hd.of_nodes_eq (append_leaves hends).2.1 (append_elsewhere hends).2

theorem truncate_maintains (n : Nat) : (truncate n).Maintains Proper := fun _ hd => hd.of_nodes_eq rfl rfl

theorem writeFile_maintains (path : String) (bytes : Bytes) : (writeFile path bytes).Maintains Proper :=
  (openFile_maintains path).bind fun n => (truncate_maintains n).bind fun _ => append_maintains n bytes

theorem rename_maintains (old new : String) : (rename old new).Maintains Proper := by
  intro d hd
  rcases rename_cases (Action.ends_run (rename old new) d) with ⟨-, -, hd'⟩ | ⟨_, _, _, -, -, -, hfile, hd'⟩
  · rw [hd']
    exact hd
  · rw [hd']
    exact hd.renamed hfile

theorem remove_maintains (path : String) : (remove path).Maintains Proper := by
  intro d hd
  show (remove path d).state.Proper
  unfold remove
  split
  · exact hd
  · next place _ =>
    split
    · exact hd.setNode place nofun
    · exact hd
    · exact hd

theorem makeDirectory_maintains (path : String) : (makeDirectory path).Maintains Proper := by
  intro d hd
  show (makeDirectory path d).state.Proper
  unfold makeDirectory
  split
  · exact hd
  · next place _ =>
    split
    · exact hd
    · exact hd.setNode place nofun

inductive Operation where
  | openFile (path : String)
  | append (number : Nat) (bytes : Bytes)
  | truncate (number : Nat)
  | rename (old new : String)
  | remove (path : String)
  | makeDirectory (path : String)
  | tear (tears : List (Option Tear))

def Operation.perform : Operation → Action IoError Disk Unit
  | .openFile path => (fun _ => ()) <$> Disk.openFile path
  | .append number bytes => Disk.append number bytes
  | .truncate number => Disk.truncate number
  | .rename old new => Disk.rename old new
  | .remove path => Disk.remove path
  | .makeDirectory path => Disk.makeDirectory path
  | .tear tears => Action.modify fun d => { d with tears }

theorem perform_maintains (operation : Operation) : operation.perform.Maintains Proper := by
  cases operation with
  | openFile path => exact (openFile_maintains path).map _
  | append number bytes => exact append_maintains number bytes
  | truncate number => exact truncate_maintains number
  | rename old new => exact rename_maintains old new
  | remove path => exact remove_maintains path
  | makeDirectory path => exact makeDirectory_maintains path
  | tear tears => exact fun d hd => hd.of_nodes_eq rfl rfl

/-- Whatever is done with a blank disk, it is proper afterwards. -/
theorem proper_each (start : Place) (operations : List Operation) :
    (Action.each Operation.perform operations (blank start)).2.Proper :=
  Action.each_invariant perform_maintains operations (proper_blank start)

/-- Only what one place holds has changed: which file is there, and what is in that file. -/
structure Apart (place : Place) (d d' : Disk) : Prop where
  nodes (p : Place) : p ≠ place → d'.nodes p = d.nodes p
  contents (n : Nat) : d'.nodes place ≠ some (.file n) → d'.contents n = d.contents n

theorem Apart.contents_of_file (h : Apart place d d') (hd' : d'.Proper) {p : Place} (hp : p ≠ place)
    (hfile : d.nodes p = some (.file n)) : d'.contents n = d.contents n := by
  refine h.contents n fun hplace => hp ?_
  exact hd'.named p place n ((h.nodes p hp).trans hfile) hplace

theorem overwrite_leaves {r : Except IoError Unit}
    (h : (do truncate n; append n bytes : Action IoError Disk Unit).Ends d r d') :
    d.Later d' ∧ d'.nodes = d.nodes ∧ ∀ m, m ≠ n → d'.contents m = d.contents m := by
  have htruncate : (truncate n : Action IoError Disk Unit).Ends d (.ok ()) (d.setContents n []) :=
    Action.ends_modify.mpr ⟨rfl, rfl⟩
  have happend := htruncate.bind_iff.mp h
  obtain ⟨hlater, hnodes, -⟩ := append_leaves happend
  refine ⟨(later_setContents d n []).trans hlater, hnodes, fun m hm => ?_⟩
  exact ((append_elsewhere happend).1 m hm).trans (if_neg hm)

theorem writeFile_apart {r : Except IoError Unit} (h : (writeFile path bytes).Ends d r d') :
    d' = d ∨ ∃ place, d.locateFile path = .ok place ∧ d.Later d' ∧ Apart place d d' := by
  rcases Action.ends_bind.mp h with ⟨n, d₁, hopen, hrest⟩ | ⟨cause, hopen, -⟩
  · obtain ⟨hlater, hnodes, hcontents⟩ := overwrite_leaves hrest
    obtain ⟨-, hopened, -⟩ := openFile_ends hopen
    rcases openFile_cases hopen with ⟨_, heq, -⟩ | ⟨place, m, heq, hplace, hfile, rfl⟩ | ⟨place, heq, hplace, hfree, rfl⟩
    · cases heq
    · cases heq
      refine .inr ⟨place, hplace, hlater, fun p _ => congrFun hnodes p, fun m hm => hcontents m ?_⟩
      rintro rfl
      exact hm ((congrFun hnodes place).trans hfile)
    · cases heq
      refine .inr ⟨place, hplace, hopened.trans hlater, fun p hp => (congrFun hnodes p).trans (if_neg hp), fun m hm => ?_⟩
      have hne : m ≠ d.next := by
        rintro rfl
        exact hm ((congrFun hnodes place).trans (if_pos rfl))
      exact (hcontents m hne).trans (if_neg hne)
  · rcases openFile_cases hopen with ⟨-, -, hd'⟩ | ⟨_, _, heq, -⟩ | ⟨_, heq, -⟩
    · exact .inl hd'
    · cases heq
    · cases heq

end ShortLinks.Disk
