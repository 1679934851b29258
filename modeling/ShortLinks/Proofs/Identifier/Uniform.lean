import Mathlib.Data.FinEnum
import Mathlib.Data.Fintype.BigOperators
import ShortLinks.Proofs.Identifier.Relabeling

/-!
# Identifiers are uniform

Among the buffers from which an identifier is drawn with a given number of requests, every identifier has the same share:
relabeling takes the buffers that spell one of them to those that spell another.
-/

set_option autoImplicit false

namespace ShortLinks

instance instFintypeVector {α : Type} {n : Nat} [Fintype α] : Fintype (Vector α n) :=
  Fintype.ofEquiv (Fin n → α)
    { toFun := Vector.ofFn
      invFun := fun v i => v[i]
      left_inv := fun f => funext fun i => by simp
      right_inv := fun v => Vector.ofFn_getElem }

variable {length k i : Nat} {more : Nat → Fill} {fills : Vector (Vector UInt8 64) k}

namespace Random

/-- A source that gives these buffers first, and that is asked as often as there are buffers. -/
def ofBuffers (fills : Vector (Vector UInt8 64) k) (more : Nat → Fill) : Random :=
  { fill := after (fills.toList.map .buffer) more, requests := 0, patience := k }

theorem fill_ofBuffers (hi : i < k) : (ofBuffers fills more).fill (0 + i) = .buffer fills[i] := by
  simp [ofBuffers, after, hi]

theorem gives_ofBuffers : (ofBuffers fills more).Gives k := fun i hi => ⟨fills[i], fill_ofBuffers hi⟩

theorem stream_ofBuffers (hi : i ≤ k) :
    (ofBuffers fills more).stream i = (fills.toList.take i).flatMap Vector.toList := by
  induction i with
  | zero => rfl
  | succ i ih =>
    have hlt : i < fills.toList.length := by rwa [Vector.length_toList]
    have hfill : (ofBuffers fills more).fill ((ofBuffers fills more).requests + i) = .buffer fills[i] := fill_ofBuffers hi
    rw [stream_succ, ih (Nat.le_of_succ_le hi), ← List.take_append_getElem hlt, List.flatMap_append, hfill]
    simp [Fill.bytes]

theorem stream_ofBuffers_all : (ofBuffers fills more).stream k = fills.toList.flatMap Vector.toList := by
  rw [stream_ofBuffers le_rfl, List.take_of_length_le Vector.length_toList.le]

end Random

namespace Identifier

open ShortLinks.Random (ofBuffers)

variable {σ : Nat → Equiv.Perm (Fin 62)} {p q : Fin length → Fin 62} {bytes : Bytes} {id s t : String}

def IsIdentifier (length : Nat) (s : String) : Prop := s.length = length ∧ ∀ c ∈ s.toList, c ∈ alphabet

instance : Decidable (IsIdentifier length s) :=
  decidable_of_iff (s.length = length ∧ s.toList.all (· ∈ alphabet) = true) (by simp [IsIdentifier])

def text (places : Fin length → Fin 62) : String := String.ofList (List.ofFn fun i => symbol (places i))

theorem text_injective : Function.Injective (@text length) := by
  intro p q h
  have hsymbols := List.ofFn_injective (String.ofList_injective h)
  exact funext fun i => symbol_injective (congrFun hsymbols i)

theorem mem_alphabet_iff {c : Char} : c ∈ alphabet ↔ ∃ p, symbol p = c := by
  rw [List.mem_iff_get, Function.Surjective.exists (finCongr alphabet_length.symm).surjective]
  rfl

theorem isIdentifier_iff : IsIdentifier length s ↔ ∃ places : Fin length → Fin 62, text places = s := by
  constructor
  · rintro ⟨rfl, hs⟩
    choose f hf using fun i : Fin s.length => mem_alphabet_iff.mp (hs _ (List.getElem_mem (l := s.toList) i.isLt))
    refine ⟨f, ?_⟩
    apply String.toList_inj.mp
    rw [text, String.toList_ofList, funext hf]
    exact List.ofFn_getElem
  · rintro ⟨places, rfl⟩
    refine ⟨by simp [text], fun c hc => ?_⟩
    rw [text, String.toList_ofList] at hc
    obtain ⟨i, rfl⟩ := (List.mem_ofFn' _ _).mp hc
    exact mem_alphabet_iff.mpr ⟨_, rfl⟩

def identifiers (length : Nat) : Finset String := Finset.univ.image (@text length)

theorem mem_identifiers : s ∈ identifiers length ↔ IsIdentifier length s := by
  simp [identifiers, isIdentifier_iff]

theorem card_identifiers (length : Nat) : (identifiers length).card = 62 ^ length := by
  rw [identifiers, Finset.card_image_of_injective _ text_injective, Finset.card_univ, Fintype.card_fun, Fintype.card_fin,
    Fintype.card_fin]

theorem spelled_eq_text_iff (henough : length ≤ (accepted bytes).length) : spelled length bytes = text p ↔
    ∀ i : Fin length, place ((accepted bytes).get (i.castLE henough)) = p i := by
  have htake : (((accepted bytes).take length).map letter) =
      List.ofFn fun i : Fin length => symbol (place ((accepted bytes).get (i.castLE henough))) := by
    apply List.ext_getElem
    · simp [henough]
    · intro i _ _
      simp [letter_eq_symbol]
  constructor
  · intro h i
    have hsymbols := List.ofFn_injective (htake.symm.trans (String.ofList_injective h))
    exact symbol_injective (congrFun hsymbols i)
  · intro h
    simp only [spelled, htake, text, h]

theorem spelled_relabel_iff (henough : length ≤ (accepted bytes).length) (hσ : ∀ i : Fin length, σ i (p i) = q i) :
    spelled length (relabel σ 0 bytes) = text q ↔ spelled length bytes = text p := by
  have henough' : length ≤ (accepted (relabel σ 0 bytes)).length := by rwa [length_accepted_relabel]
  have hplace (i : Fin length) : place ((accepted (relabel σ 0 bytes)).get (i.castLE henough')) =
      σ i (place ((accepted bytes).get (i.castLE henough))) := by
    have hcounts := lt_of_mem_accepted (List.getElem_mem (i.isLt.trans_le henough))
    simp only [accepted_relabel, List.get_eq_getElem, Fin.val_castLE, List.getElem_mapIdx, Nat.zero_add]
    exact place_permute _ hcounts
  rw [spelled_eq_text_iff henough', spelled_eq_text_iff henough]
  refine forall_congr' fun i => ?_
  rw [hplace, ← hσ, (σ i).apply_eq_iff_eq]

theorem suffices_ofBuffers_iff : Suffices length (ofBuffers fills more) k ↔
    length ≤ (accepted (fills.toList.flatMap Vector.toList)).length ∧
      ∀ i < k, (accepted ((fills.toList.take i).flatMap Vector.toList)).length < length := by
  constructor
  · intro h
    refine ⟨Random.stream_ofBuffers_all ▸ h.enough, fun i hi => ?_⟩
    rw [← Random.stream_ofBuffers hi.le]
    exact h.least i hi
  · rintro ⟨henough, hleast⟩
    refine ⟨Random.gives_ofBuffers, Random.stream_ofBuffers_all ▸ henough, fun i hi => ?_⟩
    rw [Random.stream_ofBuffers hi.le]
    exact hleast i hi

theorem suffices_relabelFills_iff :
    Suffices length (ofBuffers (relabelFills σ fills) more) k ↔ Suffices length (ofBuffers fills more) k := by
  simp only [suffices_ofBuffers_iff, toList_relabelFills, take_relabelBuffers, flatMap_relabelBuffers,
    length_accepted_relabel]

-- Both are irreducible: unfolded, a comparison of two of them would go through all buffers.

/-- The buffers from which an identifier is drawn with a request for each. -/
@[irreducible]
def finishing (length k : Nat) (more : Nat → Fill) : Finset (Vector (Vector UInt8 64) k) :=
  Finset.univ.filter fun fills =>
    (generate length (ofBuffers fills more)).1.isOk ∧ (generate length (ofBuffers fills more)).2.requests = k

/-- The buffers from which this identifier is drawn with a request for each. -/
@[irreducible]
def yielding (length k : Nat) (more : Nat → Fill) (id : String) : Finset (Vector (Vector UInt8 64) k) :=
  Finset.univ.filter fun fills =>
    (generate length (ofBuffers fills more)).1 = .ok id ∧ (generate length (ofBuffers fills more)).2.requests = k

theorem generate_ofBuffers_iff : ((generate length (ofBuffers fills more)).1 = .ok id ∧
    (generate length (ofBuffers fills more)).2.requests = k) ↔
      Suffices length (ofBuffers fills more) k ∧ spelled length (fills.toList.flatMap Vector.toList) = id := by
  constructor
  · rintro ⟨hid, hrequests⟩
    obtain ⟨n, -, hsuffices, rfl, hrest⟩ := generate_eq_ok_iff.mp (Prod.ext hid rfl)
    have hn : 0 + n = k := (congrArg Random.requests hrest).symm.trans hrequests
    rw [Nat.zero_add] at hn
    subst hn
    exact ⟨hsuffices, by rw [Random.stream_ofBuffers_all]⟩
  · rintro ⟨hsuffices, rfl⟩
    rw [generate_of_suffices hsuffices le_rfl, Random.stream_ofBuffers_all]
    exact ⟨rfl, Nat.zero_add k⟩

theorem mem_yielding : fills ∈ yielding length k more id ↔
    Suffices length (ofBuffers fills more) k ∧ spelled length (fills.toList.flatMap Vector.toList) = id := by
  rw [yielding, Finset.mem_filter, generate_ofBuffers_iff]
  simp

theorem mem_finishing : fills ∈ finishing length k more ↔ Suffices length (ofBuffers fills more) k := by
  have hdrawn : (generate length (ofBuffers fills more)).1.isOk ↔
      ∃ id, (generate length (ofBuffers fills more)).1 = .ok id := by
    cases (generate length (ofBuffers fills more)).1 <;> simp [Except.isOk, Except.toBool]
  rw [finishing, Finset.mem_filter, hdrawn, ← exists_and_right]
  simp [generate_ofBuffers_iff]

theorem card_yielding_text (p q : Fin length → Fin 62) :
    (yielding length k more (text p)).card = (yielding length k more (text q)).card := by
  let σ (i : Nat) : Equiv.Perm (Fin 62) := if h : i < length then Equiv.swap (p ⟨i, h⟩) (q ⟨i, h⟩) else Equiv.refl _
  have hσ (i : Fin length) : σ i (p i) = q i := by
    simp [σ]
  -- Relabeled by the swaps, the buffers that spell the one identifier are those that spell the other.
  refine Finset.card_equiv (relabeling σ k) fun fills => ?_
  rw [mem_yielding, mem_yielding]
  show _ ↔ Suffices length (ofBuffers (relabelFills σ fills) more) k ∧ _
  rw [suffices_relabelFills_iff]
  refine and_congr_right fun hsuffices => ?_
  show _ ↔ spelled length ((relabelFills σ fills).toList.flatMap Vector.toList) = text q
  rw [toList_relabelFills, flatMap_relabelBuffers, spelled_relabel_iff (suffices_ofBuffers_iff.mp hsuffices).1 hσ]

theorem isIdentifier_spelled (henough : length ≤ (accepted bytes).length) : IsIdentifier length (spelled length bytes) :=
  isIdentifier_iff.mpr ⟨_, ((spelled_eq_text_iff henough).mpr fun _ => rfl).symm⟩

/-- Every identifier is drawn from as many buffers as every other one, so each has one part in `62 ^ length`. -/
theorem card_yielding (k : Nat) (more : Nat → Fill) (hs : IsIdentifier length s) (ht : IsIdentifier length t) :
    (yielding length k more s).card = (yielding length k more t).card ∧
      62 ^ length * (yielding length k more s).card = (finishing length k more).card := by
  have heq {s t : String} (hs : IsIdentifier length s) (ht : IsIdentifier length t) :
      (yielding length k more s).card = (yielding length k more t).card := by
    obtain ⟨p, rfl⟩ := isIdentifier_iff.mp hs
    obtain ⟨q, rfl⟩ := isIdentifier_iff.mp ht
    exact card_yielding_text p q
  refine ⟨heq hs ht, ?_⟩
  -- Buffers that finish are sorted by the identifier that is drawn from them.
  have hmaps : Set.MapsTo (fun fills : Vector (Vector UInt8 64) k => spelled length (fills.toList.flatMap Vector.toList))
      (finishing length k more) (identifiers length) := by
    intro fills hfills
    have hsuffices := mem_finishing.mp (Finset.mem_coe.mp hfills)
    exact Finset.mem_coe.mpr (mem_identifiers.mpr (isIdentifier_spelled (suffices_ofBuffers_iff.mp hsuffices).1))
  have hfiber (id : String) : (finishing length k more).filter
      (fun fills => spelled length (fills.toList.flatMap Vector.toList) = id) = yielding length k more id := by
    ext fills
    rw [Finset.mem_filter, mem_finishing, mem_yielding]
  have hshare (id : String) (hid : id ∈ identifiers length) : ((finishing length k more).filter
      fun fills => spelled length (fills.toList.flatMap Vector.toList) = id).card = (yielding length k more s).card := by
    rw [hfiber]
    exact heq (mem_identifiers.mp hid) hs
  rw [Finset.card_eq_sum_card_fiberwise hmaps, Finset.sum_const_nat hshare, card_identifiers]

def lateBuffers : Vector (Vector UInt8 64) 2 :=
  #v[Vector.replicate 64 255, Vector.ofFn fun i => if i.val % 2 = 0 then 1 else 61]

def failing : Nat → Fill := fun _ => .failure 5

theorem lateBuffers_yield : lateBuffers ∈ yielding 3 2 failing "b9b" :=
  mem_yielding.mpr (generate_ofBuffers_iff.mp (by decide +kernel))

theorem card_yielding_three : IsIdentifier 3 "b9b" ∧ IsIdentifier 3 "Zzz" ∧
    0 < (yielding 3 2 failing "b9b").card ∧
    (yielding 3 2 failing "b9b").card = (yielding 3 2 failing "Zzz").card ∧
    62 ^ 3 * (yielding 3 2 failing "b9b").card = (finishing 3 2 failing).card := by
  have hs : IsIdentifier 3 "b9b" := by decide
  have ht : IsIdentifier 3 "Zzz" := by decide
  have hpositive : 0 < (yielding 3 2 failing "b9b").card := Finset.card_pos.mpr ⟨lateBuffers, lateBuffers_yield⟩
  exact ⟨hs, ht, hpositive, card_yielding 2 failing hs ht⟩

end Identifier
end ShortLinks
