import Mathlib.Data.List.Dedup
import Mathlib.Data.Multiset.MapFold
import Mathlib.Logic.Function.Basic
import ShortLinks.Proofs.Action
import ShortLinks.Store.Scripted

/-!
# What a store does, seen from outside

The contents of a store are the entries under their ids. `Contents.Step` says what each call answers and which
contents it leaves, whatever the store keeps them in, and `LawfulStore` is a store that does that and nothing
else. Where no two live entries share a target, the contents alone decide every answer: `Step.unique`.
-/

set_option autoImplicit false

namespace ShortLinks

/-- The entry under each id, deleted or not. -/
abbrev Contents := String → Option Entry

namespace Contents

variable {c c' : Contents} {e x y : Entry} {id target requester owner : String}

def nothing : Contents := fun _ => none

def Keyed (c : Contents) : Prop := ∀ id e, c id = some e → e.id = id

def LiveFor (c : Contents) (target : String) (e : Entry) : Prop := c e.id = some e ∧ e.isLiveFor target = true

def OneLive (c : Contents) : Prop := ∀ target e e', c.LiveFor target e → c.LiveFor target e' → e = e'

def store (c : Contents) (e : Entry) : Contents := Function.update c e.id (some e)

def delete (c : Contents) (requester id : String) : Contents :=
  Function.update c id ((c id).map fun e => if e.canBeDeletedBy requester then e.markDeleted else e)

def Lists (c : Contents) (entries : List Entry) : Prop :=
  (entries.map Entry.id).Nodup ∧ ∀ e, e ∈ entries ↔ c e.id = some e

/-- What a batch answers item by item, and what it leaves. An item whose target is taken is answered by an entry
that has the target, and any other item is stored. -/
inductive Answers : Contents → List Entry → List Entry → Contents → Prop where
  | nil (c : Contents) : Answers c [] [] c
  | known {c c' : Contents} {item x : Entry} {rest answers : List Entry} (hx : c.LiveFor item.target x)
      (hrest : Answers c rest answers c') : Answers c (item :: rest) (x.answering item :: answers) c'
  | fresh {c c' : Contents} {item : Entry} {rest answers : List Entry} (hfree : ∀ x, ¬ c.LiveFor item.target x)
      (hid : c item.id = none) (hrest : Answers (c.store item) rest answers c') :
      Answers c (item :: rest) (item :: answers) c'

theorem isLiveFor_iff : e.isLiveFor target = true ↔ e.deleted = false ∧ e.target = target := by
  simp [Entry.isLiveFor]

theorem LiveFor.target_eq (h : c.LiveFor target e) : e.target = target := (isLiveFor_iff.mp h.2).2

theorem LiveFor.live (h : c.LiveFor target e) : e.deleted = false := (isLiveFor_iff.mp h.2).1

theorem store_self (c : Contents) (e : Entry) : c.store e e.id = some e := Function.update_self _ _ _

theorem store_other (h : id ≠ e.id) : c.store e id = c id := Function.update_of_ne h _ _

theorem store_eq_some_iff (hid : c e.id = none) : c.store e id = some x ↔ c id = some x ∨ id = e.id ∧ x = e := by
  by_cases heq : id = e.id
  · subst heq
    rw [store_self, hid]
    simp [eq_comm]
  · rw [store_other heq]
    simp [heq]

theorem delete_self (c : Contents) (requester id : String) :
    c.delete requester id id = (c id).map fun e => if e.canBeDeletedBy requester then e.markDeleted else e :=
  Function.update_self _ _ _

theorem delete_other {other : String} (h : other ≠ id) : c.delete requester id other = c other :=
  Function.update_of_ne h _ _

theorem markDeleted_of_deleted (h : e.deleted = true) : e.markDeleted = e := by
  obtain ⟨id, target, owner, correlation, deleted⟩ := e
  cases h
  rfl

theorem delete_eq_self (h : ∀ e, c id = some e → e.canBeDeletedBy requester = true → e.deleted = true) :
    c.delete requester id = c := by
  unfold delete
  refine Function.update_eq_self_iff.mpr ((Option.map_congr fun e he => ?_).trans Option.map_id')
  split
  · next hdel => exact markDeleted_of_deleted (h e he hdel)
  · rfl

theorem Keyed.store (h : c.Keyed) (e : Entry) : (c.store e).Keyed := by
  intro id x hx
  by_cases hid : id = e.id
  · rw [hid, store_self] at hx
    cases hx
    exact hid.symm
  · rw [store_other hid] at hx
    exact h id x hx

theorem Keyed.delete (h : c.Keyed) (requester id : String) : (c.delete requester id).Keyed := by
  intro other x hx
  by_cases hid : other = id
  · rw [hid, delete_self] at hx
    obtain ⟨e, he, rfl⟩ := Option.map_eq_some_iff.mp hx
    rw [hid, ← h id e he]
    split <;> rfl
  · rw [delete_other hid] at hx
    exact h other x hx

theorem LiveFor.of_store (h : (c.store e).LiveFor target x) : c.LiveFor target x ∨ x = e := by
  obtain ⟨hx, hlive⟩ := h
  by_cases hid : x.id = e.id
  · rw [hid, store_self] at hx
    exact .inr (Option.some.inj hx).symm
  · rw [store_other hid] at hx
    exact .inl ⟨hx, hlive⟩

theorem LiveFor.store (hid : c e.id = none) (h : c.LiveFor target x) : (c.store e).LiveFor target x := by
  refine ⟨?_, h.2⟩
  rw [store_other, h.1]
  intro heq
  rw [← heq, h.1] at hid
  cases hid

theorem liveFor_store_iff (hid : c e.id = none) :
    (c.store e).LiveFor target x ↔ c.LiveFor target x ∨ (x = e ∧ e.isLiveFor target = true) := by
  constructor
  · intro h
    rcases h.of_store with hx | rfl
    · exact .inl hx
    · exact .inr ⟨rfl, h.2⟩
  · rintro (hx | ⟨rfl, hlive⟩)
    · exact hx.store hid
    · exact ⟨store_self c x, hlive⟩

theorem liveFor_delete_iff : (c.delete requester id).LiveFor target x ↔
    c.LiveFor target x ∧ ¬ (x.id = id ∧ x.canBeDeletedBy requester = true) := by
  by_cases hid : x.id = id
  · unfold LiveFor
    rw [hid, delete_self, Option.map_eq_some_iff]
    constructor
    · rintro ⟨⟨e, he, hex⟩, hlive⟩
      split at hex
      · subst hex
        simp [Entry.isLiveFor, Entry.markDeleted] at hlive
      · next hdel =>
        subst hex
        exact ⟨⟨he, hlive⟩, fun h => hdel h.2⟩
    · rintro ⟨⟨hx, hlive⟩, hdel⟩
      exact ⟨⟨x, hx, if_neg fun h => hdel ⟨rfl, h⟩⟩, hlive⟩
  · unfold LiveFor
    rw [delete_other hid]
    exact (and_iff_left fun h => hid h.1).symm

theorem LiveFor.of_delete (h : (c.delete requester id).LiveFor target x) : c.LiveFor target x :=
  (liveFor_delete_iff.mp h).1

theorem firstTaken?_store {rest : List Entry} (hrest : firstTaken? (fun id => (c id).isSome || id == e.id) rest = none) :
    firstTaken? (fun id => (c.store e id).isSome) rest = none := by
  refine firstTaken?_eq_none_of_le (fun id hsome => ?_) hrest
  by_cases heq : id = e.id
  · simp [heq]
  · rw [store_other heq] at hsome
    simp [hsome]

theorem OneLive.store (h : c.OneLive) (hfree : ∀ x, ¬ c.LiveFor e.target x) : (c.store e).OneLive := by
  intro target x y hx hy
  rcases hx.of_store with hx' | rfl <;> rcases hy.of_store with hy' | rfl
  · exact h target x y hx' hy'
  · exact absurd (hy.target_eq ▸ hx') (hfree x)
  · exact absurd (hx.target_eq ▸ hy') (hfree y)
  · rfl

theorem OneLive.delete (h : c.OneLive) (requester id : String) : (c.delete requester id).OneLive :=
  fun target x y hx hy => h target x y hx.of_delete hy.of_delete

theorem OneLive.answers {batch answers : List Entry} (h : c.OneLive) (hb : Answers c batch answers c') :
    c'.OneLive := by
  induction hb with
  | nil => exact h
  | known _ _ ih => exact ih h
  | fresh hfree _ _ ih => exact ih (h.store hfree)

theorem Answers.unique {batch answers answers' : List Entry} {c₁ c₂ : Contents} (h : c.OneLive)
    (h₁ : Answers c batch answers c₁) (h₂ : Answers c batch answers' c₂) : answers = answers' ∧ c₁ = c₂ := by
  induction h₁ generalizing answers' c₂ with
  | nil =>
    cases h₂
    exact ⟨rfl, rfl⟩
  | known hx _ ih =>
    cases h₂ with
    | known hy hrest =>
      obtain ⟨rfl, rfl⟩ := ih h hrest
      exact ⟨by rw [h _ _ _ hx hy], rfl⟩
    | fresh hfree => exact absurd hx (hfree _)
  | fresh hfree _ _ ih =>
    cases h₂ with
    | known hy => exact absurd hy (hfree _)
    | fresh _ _ hrest =>
      obtain ⟨rfl, rfl⟩ := ih (h.store hfree) hrest
      exact ⟨rfl, rfl⟩

theorem Lists.nodup {entries : List Entry} (h : c.Lists entries) : entries.Nodup := .of_map _ h.1

theorem Lists.perm {entries entries' : List Entry} (h : c.Lists entries) (h' : c.Lists entries') :
    entries.Perm entries' :=
  (List.perm_ext_iff_of_nodup h.nodup h'.nodup).mpr fun e => (h.2 e).trans (h'.2 e).symm

end Contents

theorem firstTaken?_eq_none_iff {taken : String → Bool} {batch : List Entry} :
    firstTaken? taken batch = none ↔ (batch.map Entry.id).Nodup ∧ ∀ e ∈ batch, taken e.id = false := by
  refine ⟨fun h => ?_, fun ⟨hnodup, hfree⟩ => firstTaken?_eq_none hnodup hfree⟩
  induction batch generalizing taken with
  | nil => exact ⟨List.nodup_nil, nofun⟩
  | cons e rest ih =>
    obtain ⟨hid, hrest⟩ := firstTaken?_cons_eq_none h
    obtain ⟨hnodup, hfree⟩ := ih hrest
    simp only [Bool.or_eq_false_iff, beq_eq_false_iff_ne] at hfree
    refine ⟨List.nodup_cons.mpr ⟨fun hmem => ?_, hnodup⟩, List.forall_mem_cons.mpr ⟨hid, fun x hx => (hfree x hx).1⟩⟩
    obtain ⟨x, hx, heq⟩ := List.mem_map.mp hmem
    exact (hfree x hx).2 heq

theorem firstTaken?_eq_some {taken : String → Bool} {batch : List Entry} {id : String}
    (h : firstTaken? taken batch = some id) : ∃ before e rest, batch = before ++ e :: rest ∧ e.id = id ∧
      firstTaken? taken before = none ∧ (taken id = true ∨ id ∈ before.map Entry.id) := by
  induction batch generalizing taken with
  | nil => cases h
  | cons first batch ih =>
    rw [firstTaken?] at h
    split at h
    · next htaken =>
      cases h
      exact ⟨[], first, batch, rfl, rfl, rfl, .inl htaken⟩
    · next hid =>
      obtain ⟨before, e, rest, rfl, heid, hbefore, hwhy⟩ := ih h
      refine ⟨first :: before, e, rest, rfl, heid, ?_, ?_⟩
      · rw [firstTaken?, if_neg hid, hbefore]
      · simp only [Bool.or_eq_true, beq_iff_eq] at hwhy
        rcases hwhy with (htaken | rfl) | hmem
        · exact .inl htaken
        · exact .inr List.mem_cons_self
        · exact .inr (List.mem_cons_of_mem _ hmem)

/-- The repetitions of a list are removed one element after the other, each from what is behind it. -/
theorem eraseDups_induction {P : List String → Prop} (hnil : P [])
    (hcons : ∀ (a : String) (l : List String), P (l.filter fun b => !b == a) → P (a :: l)) (l : List String) : P l := by
  induction hn : l.length using Nat.strong_induction_on generalizing l with
  | _ n ih =>
    cases l with
    | nil => exact hnil
    | cons a l =>
      have hlt : (l.filter fun b => !b == a).length < n := by
        have := List.length_filter_le (fun b => !b == a) l
        rw [← hn, List.length_cons]
        omega
      exact hcons a l (ih _ hlt _ rfl)

theorem nodup_eraseDups (l : List String) : l.eraseDups.Nodup := by
  induction l using eraseDups_induction with
  | hnil => exact List.nodup_nil
  | hcons a l ih =>
    rw [List.eraseDups_cons, List.nodup_cons, List.mem_eraseDups]
    exact ⟨by simp, ih⟩

theorem eraseDups_concat (l : List String) (a : String) :
    (l ++ [a]).eraseDups = if a ∈ l then l.eraseDups else l.eraseDups ++ [a] := by
  rw [List.eraseDups_append]
  by_cases hmem : a ∈ l
  · have hnothing : [a].removeAll l = [] := by simp [List.removeAll, hmem]
    rw [if_pos hmem, hnothing]
    exact List.append_nil _
  · have hkept : [a].removeAll l = [a] := by simp [List.removeAll, hmem]
    rw [if_neg hmem, hkept]
    rfl

theorem Stats.ofEntries_perm {entries entries' : List Entry} (h : entries.Perm entries') :
    Stats.ofEntries entries = Stats.ofEntries entries' := by
  have howners : (entries.filterMap Entry.owner).eraseDups.Perm (entries'.filterMap Entry.owner).eraseDups := by
    rw [List.perm_ext_iff_of_nodup (nodup_eraseDups _) (nodup_eraseDups _)]
    intro owner
    rw [List.mem_eraseDups, List.mem_eraseDups]
    exact (h.filterMap _).mem_iff
  unfold Stats.ofEntries
  rw [h.length_eq, howners.length_eq]

/-- What a call answers. The entries of an owner are in no order. -/
inductive Reply where
  | id (id : String)
  | entry (entry : Option Entry)
  | owned (entries : Multiset Entry)
  | stored (entries : List Entry)
  | stats (stats : Stats)
  | done

def Call.perform {σ : Type} [Store σ] : Call → Action StoreError σ Reply
  | .add e => Reply.id <$> Store.add e
  | .getById id => Reply.entry <$> Store.getById id
  | .allByOwner owner => (fun entries : List Entry => .owned entries) <$> Store.allByOwner owner
  | .createBatch batch => Reply.stored <$> Store.createBatch batch
  | .softDelete requester ids => (fun _ => .done) <$> Store.softDelete requester ids
  | .stats => Reply.stats <$> Store.stats
  | .ping => (fun _ => .done) <$> Store.ping
  | .close => (fun _ => .done) <$> Store.close

/-- What a call answers to given contents, and what it leaves. -/
inductive Contents.Step (c : Contents) : Call → Except StoreError Reply → Contents → Prop where
  | conflict {e x : Entry} (hx : c.LiveFor e.target x) : Step c (.add e) (.error (.createConflict x.id)) c
  | taken {e : Entry} (hfree : ∀ x, ¬ c.LiveFor e.target x) (hid : c e.id ≠ none) :
      Step c (.add e) (.error (.duplicateId e.id)) c
  | added {e : Entry} (hfree : ∀ x, ¬ c.LiveFor e.target x) (hid : c e.id = none) :
      Step c (.add e) (.ok (.id e.id)) (c.store e)
  | found (id : String) : Step c (.getById id) (.ok (.entry (c id))) c
  | listed {entries : List Entry} (owner : String) (h : c.Lists entries) :
      Step c (.allByOwner owner) (.ok (.owned (entries.filter (·.isOwnedBy owner)))) c
  | refused {batch : List Entry} {id : String} (h : firstTaken? (fun id => (c id).isSome) batch = some id) :
      Step c (.createBatch batch) (.error (.duplicateId id)) c
  | stored {batch answers : List Entry} {c' : Contents} (h : firstTaken? (fun id => (c id).isSome) batch = none)
      (hb : c.Answers batch answers c') : Step c (.createBatch batch) (.ok (.stored answers)) c'
  | deleted (requester : String) (ids : List String) :
      Step c (.softDelete requester ids) (.ok .done) (ids.foldl (fun c id => c.delete requester id) c)
  | counted {entries : List Entry} (h : c.Lists entries) : Step c .stats (.ok (.stats (Stats.ofEntries entries))) c
  | pinged : Step c .ping (.ok .done) c
  | closed : Step c .close (.ok .done) c

namespace Contents

variable {c c₁ c₂ : Contents} {call : Call} {r r' : Except StoreError Reply}

theorem OneLive.deletes (h : c.OneLive) (requester : String) (ids : List String) :
    (ids.foldl (fun c id => c.delete requester id) c).OneLive := by
  induction ids generalizing c with
  | nil => exact h
  | cons id ids ih => exact ih (h.delete requester id)

/-- Where live entries have different targets, a call has one answer only. -/
theorem Step.unique (h : c.OneLive) (h₁ : c.Step call r c₁) (h₂ : c.Step call r' c₂) : r = r' ∧ c₁ = c₂ := by
  cases h₁ with
  | conflict hx =>
    cases h₂ with
    | conflict hy => exact ⟨by rw [h _ _ _ hx hy], rfl⟩
    | taken hfree | added hfree => exact absurd hx (hfree _)
  | taken hfree hid =>
    cases h₂ with
    | conflict hy => exact absurd hy (hfree _)
    | taken => exact ⟨rfl, rfl⟩
    | added _ hid' => exact absurd hid' hid
  | added hfree hid =>
    cases h₂ with
    | conflict hy => exact absurd hy (hfree _)
    | taken _ hid' => exact absurd hid hid'
    | added => exact ⟨rfl, rfl⟩
  | listed owner hlist =>
    cases h₂ with
    | listed _ hlist' =>
      have hperm := (hlist.perm hlist').filter (·.isOwnedBy owner)
      exact ⟨by rw [Multiset.coe_eq_coe.mpr hperm], rfl⟩
  | refused hid =>
    cases h₂ with
    | refused hid' =>
      rw [hid] at hid'
      cases hid'
      exact ⟨rfl, rfl⟩
    | stored hnone =>
      rw [hid] at hnone
      cases hnone
  | stored hnone hb =>
    cases h₂ with
    | refused hid =>
      rw [hnone] at hid
      cases hid
    | stored _ hb' =>
      obtain ⟨rfl, rfl⟩ := hb.unique h hb'
      exact ⟨rfl, rfl⟩
  | counted hlist =>
    cases h₂ with
    | counted hlist' => exact ⟨by rw [Stats.ofEntries_perm (hlist.perm hlist')], rfl⟩
  | found | deleted | pinged | closed =>
    cases h₂
    exact ⟨rfl, rfl⟩

end Contents

/-- A store whose calls do what `Contents.Step` says, as long as it is ready for them, and stay so. It is not for a store
to note that a job was applied. -/
class LawfulStore (σ : Type) [Store σ] where
  Ready : σ → Prop
  contents : σ → Contents
  keyed (s : σ) : Ready s → (contents s).Keyed
  ready_perform (call : Call) (s : σ) : Ready s → Ready (call.perform.run s).state
  step_perform (call : Call) (s : σ) : Ready s →
    (contents s).Step call (call.perform.run s).outcome (contents (call.perform.run s).state)
  quiet_perform (call : Call) : (call.perform : Action StoreError σ Reply).Quiet

end ShortLinks
