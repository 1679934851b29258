import Mathlib.Data.List.Nodup
import Mathlib.Logic.Equiv.Basic
import ShortLinks.Proofs.Identifier.Stream

/-!
# Relabeling bytes

A byte that counts stands for a letter, four bytes for each. Any permutation of the letters carries over to these bytes
and leaves the others as they are. With a permutation for each place of an identifier, all bytes of a source can be
relabeled, and back: the same bytes count before and after.
-/

set_option autoImplicit false

namespace ShortLinks.Identifier

variable {n i k : Nat} {σ τ : Nat → Equiv.Perm (Fin 62)} {b : UInt8}

/-- Which letter a byte stands for if it counts. -/
def place (b : UInt8) : Fin 62 := ⟨b.toNat % 62, Nat.mod_lt _ (by decide)⟩

def symbol (p : Fin 62) : Char := alphabet.get (p.cast alphabet_length.symm)

theorem letter_eq_symbol (b : UInt8) : letter b = symbol (place b) := rfl

theorem symbol_injective : Function.Injective symbol := by
  intro p q h
  have hnodup : alphabet.Nodup := by decide
  exact Fin.ext ((hnodup.getElem_inj_iff).mp h)

/-- The byte that stands for the permuted letter, among the four of it in the same place as before. -/
def permute (e : Equiv.Perm (Fin 62)) (b : UInt8) : UInt8 :=
  if b < 248 then UInt8.ofNat (62 * (b.toNat / 62) + e (place b)) else b

theorem toNat_permute (e : Equiv.Perm (Fin 62)) (hb : b < 248) :
    (permute e b).toNat = 62 * (b.toNat / 62) + e (place b) := by
  have hlt : b.toNat < 248 := hb
  have hplace := (e (place b)).isLt
  rw [permute, if_pos hb, UInt8.toNat_ofNat']
  omega

theorem permute_lt_iff (e : Equiv.Perm (Fin 62)) (b : UInt8) : permute e b < 248 ↔ b < 248 := by
  by_cases hb : b < 248
  · have hlt : b.toNat < 248 := hb
    have hplace := (e (place b)).isLt
    have hpermuted : (permute e b).toNat < 248 := by
      rw [toNat_permute e hb]
      omega
    exact iff_of_true hpermuted hb
  · rw [permute, if_neg hb]

theorem place_permute (e : Equiv.Perm (Fin 62)) (hb : b < 248) : place (permute e b) = e (place b) := by
  have hplace := (e (place b)).isLt
  apply Fin.ext
  show (permute e b).toNat % 62 = _
  rw [toNat_permute e hb]
  omega

theorem permute_permute {e f : Equiv.Perm (Fin 62)} (hfe : ∀ p, f (e p) = p) (b : UInt8) :
    permute f (permute e b) = b := by
  by_cases hb : b < 248
  · have hpermuted := (permute_lt_iff e b).mpr hb
    have hplace := (e (place b)).isLt
    apply UInt8.toNat_inj.mp
    rw [toNat_permute f hpermuted, place_permute e hb, hfe, toNat_permute e hb]
    show _ + b.toNat % 62 = _
    omega
  · rw [permute, permute, if_neg hb, if_neg hb]

/-- Bytes in which the letter at place `i` of an identifier is permuted by `σ i`; the first `n` places are filled
already. -/
def relabel (σ : Nat → Equiv.Perm (Fin 62)) : Nat → Bytes → Bytes
  | _, [] => []
  | n, b :: bytes => permute (σ n) b :: relabel σ (if b < 248 then n + 1 else n) bytes

theorem length_relabel (bytes : Bytes) : (relabel σ n bytes).length = bytes.length := by
  induction bytes generalizing n with
  | nil => rfl
  | cons b bytes ih => rw [relabel, List.length_cons, List.length_cons, ih]

theorem length_accepted_cons (b : UInt8) (bytes : Bytes) :
    n + (accepted (b :: bytes)).length = (if b < 248 then n + 1 else n) + (accepted bytes).length := by
  by_cases hb : b < 248
  · rw [accepted_cons_pos hb, if_pos hb, List.length_cons]
    omega
  · rw [accepted_cons_neg hb, if_neg hb]

theorem relabel_append (xs ys : Bytes) :
    relabel σ n (xs ++ ys) = relabel σ n xs ++ relabel σ (n + (accepted xs).length) ys := by
  induction xs generalizing n with
  | nil => rfl
  | cons x xs ih => rw [length_accepted_cons, List.cons_append, relabel, relabel, ih, List.cons_append]

theorem accepted_relabel (bytes : Bytes) :
    accepted (relabel σ n bytes) = (accepted bytes).mapIdx fun i b => permute (σ (n + i)) b := by
  induction bytes generalizing n with
  | nil => rfl
  | cons b bytes ih =>
    by_cases hb : b < 248
    · rw [relabel, if_pos hb, accepted_cons_pos ((permute_lt_iff (σ n) b).mpr hb), accepted_cons_pos hb, ih,
        List.mapIdx_cons]
      simp only [Nat.add_zero, Nat.add_assoc, Nat.add_comm 1]
    · rw [relabel, if_neg hb, accepted_cons_neg (mt (permute_lt_iff (σ n) b).mp hb), accepted_cons_neg hb, ih]

theorem length_accepted_relabel (bytes : Bytes) : (accepted (relabel σ n bytes)).length = (accepted bytes).length := by
  rw [accepted_relabel, List.length_mapIdx]

theorem relabel_relabel (hτσ : ∀ i p, τ i (σ i p) = p) (bytes : Bytes) : relabel τ n (relabel σ n bytes) = bytes := by
  induction bytes generalizing n with
  | nil => rfl
  | cons b bytes ih =>
    rw [relabel, relabel, permute_permute (hτσ n)]
    simp only [permute_lt_iff, ih]

def relabelBuffer (σ : Nat → Equiv.Perm (Fin 62)) (n : Nat) (buffer : Vector UInt8 64) : Vector UInt8 64 :=
  ⟨(relabel σ n buffer.toList).toArray, by rw [List.size_toArray, length_relabel, Vector.length_toList]⟩

def relabelBuffers (σ : Nat → Equiv.Perm (Fin 62)) : Nat → List (Vector UInt8 64) → List (Vector UInt8 64)
  | _, [] => []
  | n, buffer :: buffers =>
    relabelBuffer σ n buffer :: relabelBuffers σ (n + (accepted buffer.toList).length) buffers

theorem toList_relabelBuffer (buffer : Vector UInt8 64) :
    (relabelBuffer σ n buffer).toList = relabel σ n buffer.toList := rfl

theorem length_relabelBuffers (buffers : List (Vector UInt8 64)) : (relabelBuffers σ n buffers).length = buffers.length := by
  induction buffers generalizing n with
  | nil => rfl
  | cons buffer buffers ih => rw [relabelBuffers, List.length_cons, List.length_cons, ih]

theorem take_relabelBuffers (i : Nat) (buffers : List (Vector UInt8 64)) :
    (relabelBuffers σ n buffers).take i = relabelBuffers σ n (buffers.take i) := by
  induction buffers generalizing n i with
  | nil => simp [relabelBuffers]
  | cons buffer buffers ih =>
    cases i with
    | zero => rfl
    | succ i => rw [relabelBuffers, List.take_succ_cons, List.take_succ_cons, relabelBuffers, ih]

theorem flatMap_relabelBuffers (buffers : List (Vector UInt8 64)) :
    (relabelBuffers σ n buffers).flatMap Vector.toList = relabel σ n (buffers.flatMap Vector.toList) := by
  induction buffers generalizing n with
  | nil => rfl
  | cons buffer buffers ih =>
    rw [relabelBuffers, List.flatMap_cons, List.flatMap_cons, relabel_append, ih, toList_relabelBuffer]

theorem relabelBuffers_relabelBuffers (hτσ : ∀ i p, τ i (σ i p) = p) (buffers : List (Vector UInt8 64)) :
    relabelBuffers τ n (relabelBuffers σ n buffers) = buffers := by
  induction buffers generalizing n with
  | nil => rfl
  | cons buffer buffers ih =>
    have hbuffer : relabelBuffer τ n (relabelBuffer σ n buffer) = buffer := by
      apply Vector.toList_inj.mp
      rw [toList_relabelBuffer, toList_relabelBuffer, relabel_relabel hτσ]
    rw [relabelBuffers, relabelBuffers, hbuffer, toList_relabelBuffer, length_accepted_relabel, ih]

def relabelFills (σ : Nat → Equiv.Perm (Fin 62)) (fills : Vector (Vector UInt8 64) k) : Vector (Vector UInt8 64) k :=
  ⟨(relabelBuffers σ 0 fills.toList).toArray, by rw [List.size_toArray, length_relabelBuffers, Vector.length_toList]⟩

theorem toList_relabelFills (fills : Vector (Vector UInt8 64) k) :
    (relabelFills σ fills).toList = relabelBuffers σ 0 fills.toList := rfl

theorem relabelFills_relabelFills (hτσ : ∀ i p, τ i (σ i p) = p) (fills : Vector (Vector UInt8 64) k) :
    relabelFills τ (relabelFills σ fills) = fills := by
  apply Vector.toList_inj.mp
  rw [toList_relabelFills, toList_relabelFills, relabelBuffers_relabelBuffers hτσ]

def relabeling (σ : Nat → Equiv.Perm (Fin 62)) (k : Nat) :
    Vector (Vector UInt8 64) k ≃ Vector (Vector UInt8 64) k where
  toFun := relabelFills σ
  invFun := relabelFills fun i => (σ i).symm
  left_inv := relabelFills_relabelFills fun i => (σ i).symm_apply_apply
  right_inv := relabelFills_relabelFills fun i => (σ i).apply_symm_apply

end ShortLinks.Identifier
