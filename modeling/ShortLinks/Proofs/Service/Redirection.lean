import ShortLinks.Proofs.Service.Batch
import ShortLinks.Proofs.Service.Resolution

/-!
# Redirects lead to what was submitted

A target is checked as it is once it is cleaned, and kept as it was submitted. So a service redirects to the texts that
it has accepted and to no others, with whatever controls they hold: it never redirects to a text with a control exactly
if it was never given one that passes.
-/

set_option autoImplicit false

namespace ShortLinks

def ControlFree (text : String) : Prop := ∀ c ∈ text.toList, 32 ≤ c.toNat

instance (text : String) : Decidable (ControlFree text) := inferInstanceAs (Decidable (∀ c ∈ text.toList, _))

theorem checkTarget_congr {target target' : String}
    (h : Address.Url.clean target.toList = Address.Url.clean target'.toList) : checkTarget target = checkTarget target' := by
  unfold checkTarget Address.Url.parse
  rw [h]

namespace Service

def Request.targets : Request → List String
  | .create _ target => [target]
  | .createBatch _ items => items.map Submission.target
  | _ => []

section

variable {σ : Type} [Store σ] {s : Service σ} {request : Request} {target id : String}

theorem checked_of_mem_creations (h : (target, id) ∈ request.creations (s.answer request)) :
    target ∈ request.targets ∧ checkTarget target = .ok () := by
  cases request with
  | create owner submitted =>
    obtain ⟨r₀, hcall, heq⟩ := Action.ends_map.mp (Action.ends_run (Request.create owner submitted).perform s)
    change s.answer (.create owner submitted) = _ at heq
    rw [heq] at h
    cases hcheck : checkTarget submitted with
    | error cause =>
      unfold create at hcall
      rw [hcheck] at hcall
      rw [(Action.ends_fail.mp hcall).1] at h
      cases h
    | ok =>
      cases r₀ with
      | error e => cases h
      | ok o =>
        obtain ⟨rfl, -⟩ := Prod.mk.inj (List.mem_singleton.mp h)
        exact ⟨List.mem_singleton_self _, hcheck⟩
  | createBatch owner items =>
    obtain ⟨r₀, hcall, heq⟩ := Action.ends_map.mp (Action.ends_run (Request.createBatch owner items).perform s)
    change s.answer (.createBatch owner items) = _ at heq
    rw [heq] at h
    cases hbad : firstBadItem? 0 items with
    | some failure =>
      unfold createBatch at hcall
      rw [hbad] at hcall
      rw [(Action.ends_fail.mp hcall).1] at h
      cases h
    | none =>
      cases r₀ with
      | error e => cases h
      | ok entries =>
        have hmem : target ∈ items.map Submission.target := (List.of_mem_zip h).1
        obtain ⟨item, hitem, rfl⟩ := List.mem_map.mp hmem
        exact ⟨hmem, all_ok_of_firstBadItem? hbad item hitem⟩
  | _ => cases h

/-- At some point of a run an id is redirected to a text. -/
def RedirectsTo (s : Service σ) (requests : List Request) (target : String) : Prop :=
  ∃ before rest id, requests = before ++ rest ∧ (s.after before).answer (.redirectTarget id) = .ok (.target target)

def Accepts (s : Service σ) (requests : List Request) (target : String) : Prop :=
  ∃ before request rest id, requests = before ++ request :: rest ∧ s.Shortens before request target id

/-- What it means for every run that starts from here that redirects lead to what was submitted, as it was. -/
structure RedirectsVerbatim (s : Service σ) : Prop where
  redirectsTo_iff (requests : List Request) (target : String) : s.RedirectsTo requests target ↔ s.Accepts requests target
  accepted {requests : List Request} {target : String} : s.Accepts requests target →
    (∃ request ∈ requests, target ∈ request.targets) ∧ checkTarget target = .ok ()
  controlFree_iff (requests : List Request) : (∀ target, s.RedirectsTo requests target → ControlFree target) ↔
    ∀ target, s.Accepts requests target → ControlFree target

end

variable {σ : Type} [Store σ] [LawfulStore σ] {s : Service σ}

theorem Sound.redirected_of_shortens {before : List Request} {request : Request} {target id : String} (h : s.Sound)
    (hshortens : s.Shortens before request target id) :
    (s.after (before ++ [request])).answer (.redirectTarget id) = .ok (.target target) := by
  obtain ⟨x, hx, rfl⟩ := (h.next before request).live_of_mem hshortens
  exact (h.after (before ++ [request])).1.ready.redirected_iff.mpr ⟨x, hx.1, hx.target_eq, hx.live⟩

/-- A target without a live entry is shortened under the identifier that is drawn, if that is free. -/
theorem Sound.shortens_of_drawn [PreciseStore σ] {owner target id : String} (h : s.Sound)
    (hok : checkTarget target = .ok ()) (hvacant : s.Vacant target)
    (hdrawn : (Identifier.generate s.shortIdLength s.random).1 = .ok id) (hid : s.Unused id) :
    s.Shortens [] (.create owner target) target id := by
  obtain ⟨r, hcall, heq⟩ := Action.ends_map.mp (Action.ends_run (Request.create owner target).perform s)
  rw [create_of_ok hok] at hcall
  rcases PreciseStore.add_cases h.ready (Entry.create id target (some owner) none) with
    ⟨x, hx, -⟩ | ⟨-, hused, -⟩ | ⟨-, -, store, hadd, -⟩
  · exact absurd hx (h.ready.vacant_iff.mp hvacant x)
  · exact absurd (h.ready.unused_iff.mp hid) hused
  · obtain ⟨rfl, -⟩ := Action.ends_pure.mp ((addFresh_attempt (n := maxAttempts - 1) hdrawn hadd).mp hcall)
    change (target, id) ∈ (Request.create owner target).creations (s.answer (.create owner target))
    change s.answer (.create owner target) = _ at heq
    rw [heq]
    exact List.mem_singleton_self _

theorem Sound.redirectsVerbatim (h : s.Sound) (hnothing : s.contents = .nothing) : s.RedirectsVerbatim := by
  have hiff : ∀ requests target, s.RedirectsTo requests target ↔ s.Accepts requests target := by
    intro requests target
    constructor
    · rintro ⟨before, rest, id, rfl, hredirected⟩
      obtain ⟨owner, jobs, hstored, -⟩ := ((h.followsHistory hnothing).redirected before target id).mp hredirected
      obtain ⟨earlier, request, between, rfl, hstores, -, -⟩ := hstored
      exact ⟨earlier, request, between ++ rest, id, by simp, hstores.1⟩
    · rintro ⟨before, request, rest, id, rfl, hshortens⟩
      exact ⟨before ++ [request], rest, id, by simp, h.redirected_of_shortens hshortens⟩
  refine ⟨hiff, ?_, fun requests => ?_⟩
  · rintro requests target ⟨before, request, rest, id, rfl, hshortens⟩
    obtain ⟨hsubmitted, hchecked⟩ := checked_of_mem_creations hshortens
    exact ⟨⟨request, by simp, hsubmitted⟩, hchecked⟩
  · exact forall_congr' fun target => by rw [hiff]

/-- Over every run of a service that starts with an empty store, redirects lead to the texts that were accepted, as they
were submitted; and whether a text is accepted cannot depend on the controls and spaces at its ends, nor on the tabs and line
breaks inside. -/
theorem runs_redirect_verbatim (random : Random) (shortIdLength ownerIdLength workers capacity : Nat) :
    (started MemoryStore.empty random shortIdLength ownerIdLength workers capacity).RedirectsVerbatim ∧
    (∀ (path : String) (d : Disk) (store : FileStore), FileStore.Opens path d store → d.Steady →
      (d.content? path = none ∨ d.content? path = some []) →
      (started store random shortIdLength ownerIdLength workers capacity).RedirectsVerbatim) ∧
    ∀ target target' : String, Address.Url.clean target.toList = Address.Url.clean target'.toList →
      checkTarget target = checkTarget target' := by
  refine ⟨?_, ?_, fun _ _ => checkTarget_congr⟩
  · exact (started_sound MemoryStore.empty_consistent MemoryStore.contents_empty _ _ _ _ _).redirectsVerbatim
      MemoryStore.contents_empty
  · intro path d store hopens hsteady hfresh
    have hagree := Agree.opened hopens hfresh
    have hready : LawfulStore.Ready store := ⟨hagree.ready, hopens.rewritten.later.steady hsteady⟩
    have hnothing := hagree.contents.trans MemoryStore.contents_empty
    exact (started_sound hready hnothing _ _ _ _ _).redirectsVerbatim hnothing

theorem blank_runs_redirect_verbatim :
    (∃ store, FileStore.Opens "log" (Disk.blank []) store ∧
      (started store ⟨fun n => Random.repeated [UInt8.ofNat n], 0, 100⟩ 8 16 2 4).RedirectsVerbatim) ∧
    checkTarget " http://[::1]/\r\nX\t" = checkTarget "http://[::1]/X" := by
  constructor
  · obtain ⟨store, hopens⟩ := blank_opens
    have hmissing : (Disk.blank []).content? "log" = none := by decide
    have hsteady : (Disk.blank []).Steady := fun _ h => by cases h
    exact ⟨store, hopens, (runs_redirect_verbatim _ 8 16 2 4).2.1 "log" _ store hopens hsteady (.inl hmissing)⟩
  · exact (runs_redirect_verbatim Identifier.constantSource 8 16 2 4).2.2 _ _ (by decide +kernel)

/-- A URL with a line break inside its address is accepted, and it is redirected to as it is. -/
theorem blank_redirects_to_break :
    let s := started MemoryStore.empty Identifier.constantSource 8 16 2 4
    let target := "http://[:\r\n:1]/"
    (s.after [.create "u" target]).answer (.redirectTarget "aaaaaaaa") = .ok (.target target) ∧
      ¬ ControlFree target ∧ ¬ ∀ requests target, s.RedirectsTo requests target → ControlFree target := by
  intro s target
  have hsound : s.Sound := started_sound MemoryStore.empty_consistent MemoryStore.contents_empty _ _ _ _ _
  have hnothing : ∀ id e, ¬ s.Stored id e := by
    intro id e he
    have hstored : MemoryStore.empty.contents id = some e := hsound.stored_iff.mp he
    rw [MemoryStore.contents_empty] at hstored
    cases hstored
  have hdrawn : (Identifier.generate 8 Identifier.constantSource).1 = .ok "aaaaaaaa" := by decide +kernel
  have hshortens : s.Shortens [] (.create "u" target) target "aaaaaaaa" :=
    hsound.shortens_of_drawn (by decide +kernel) (fun id e he => absurd he (hnothing id e)) hdrawn (hnothing "aaaaaaaa")
  have hredirected := hsound.redirected_of_shortens hshortens
  rw [List.nil_append] at hredirected
  have hredirects : s.RedirectsTo [.create "u" target] target :=
    ⟨[.create "u" target], [], "aaaaaaaa", (List.append_nil _).symm, hredirected⟩
  have hbreak : ¬ ControlFree target := fun h => absurd (h '\r' (by simp [target])) (by decide)
  exact ⟨hredirected, hbreak, fun hall => hbreak (hall [.create "u" target] target hredirects)⟩

end Service
end ShortLinks
