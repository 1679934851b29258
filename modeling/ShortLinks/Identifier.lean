import ShortLinks.Random

/-!
# Identifiers

Identifiers are drawn evenly from sixty-two letters and digits. A byte counts only if it is below the
largest multiple of sixty-two, so that every character has the same share of the bytes; what is left of a
buffer at the end of an identifier is thrown away.
-/

set_option autoImplicit false

namespace ShortLinks.Identifier

def alphabet : List Char := "abcdefghijklmnopqrstuvwxyzABCDEFGHIJKLMNOPQRSTUVWXYZ0123456789".toList

/-- Bytes from here on are passed over. -/
def acceptBelow : Nat := 248

def letter? (b : UInt8) : Option Char :=
  if b.toNat < acceptBelow then alphabet[b.toNat % 62]? else none

inductive DrawError where
  | randomSource (code : Nat)
  /-- The run was bounded too tightly to tell what is drawn, if anything ever is: no answer of a service. -/
  | outOfPatience
deriving DecidableEq, Repr

def DrawError.message : DrawError → String
  | .randomSource code => s!"random source failed: Unknown Error: {131072 + code}"
  | .outOfPatience => "random source gave nothing of use"

def letters (missing : Nat) (bytes : Vector UInt8 64) : List Char := (bytes.toList.filterMap letter?).take missing

/-- Draws `missing` characters, with at most `fuel` requests. -/
def draw : Nat → Nat → Random → Except DrawError (List Char) × Random
  | _, 0, r => (.ok [], r)
  | 0, _ + 1, r => (.error .outOfPatience, r)
  | fuel + 1, missing + 1, r => match r.next with
    | (.failure code, r) => (.error (.randomSource code), r)
    | (.buffer bytes, r) =>
      let drawn := letters (missing + 1) bytes
      let (rest, r) := draw fuel (missing + 1 - drawn.length) r
      (rest.map (drawn ++ ·), r)

def generate (length : Nat) (r : Random) : Except DrawError String × Random :=
  let (outcome, r) := draw r.patience length r
  (outcome.map String.ofList, r)

/-- Draws identifiers, passing over those drawn before, until `missing` more are found or `fuel` draws are
made. -/
def drawDistinct (length : Nat) : Nat → Nat → List String → Random → Except DrawError (List String) × Random
  | _, 0, drawn, r => (.ok drawn, r)
  | 0, _ + 1, _, r => (.error .outOfPatience, r)
  | fuel + 1, missing + 1, drawn, r => match generate length r with
    | (.error e, r) => (.error e, r)
    | (.ok id, r) =>
      if drawn.contains id then drawDistinct length fuel (missing + 1) drawn r
      else drawDistinct length fuel missing (drawn ++ [id]) r

def generateDistinct (count length : Nat) (r : Random) : Except DrawError (List String) × Random :=
  drawDistinct length r.patience count [] r

theorem length_drawDistinct {length fuel missing : Nat} {drawn ids : List String} {r : Random}
    (h : (drawDistinct length fuel missing drawn r).1 = .ok ids) : ids.length = drawn.length + missing := by
  induction fuel generalizing missing drawn r with
  | zero =>
    cases missing with
    | zero =>
      cases h
      rfl
    | succ missing => cases h
  | succ fuel ih =>
    cases missing with
    | zero =>
      cases h
      rfl
    | succ missing =>
      rw [drawDistinct] at h
      split at h
      · cases h
      · next id r _ =>
        split at h
        · exact ih h
        · have hlength := ih h
          rw [List.length_append, List.length_singleton] at hlength
          omega

theorem nodup_drawDistinct {length fuel missing : Nat} {drawn ids : List String} {r : Random}
    (h : (drawDistinct length fuel missing drawn r).1 = .ok ids) (hdrawn : drawn.Nodup) : ids.Nodup := by
  induction fuel generalizing missing drawn r with
  | zero =>
    cases missing with
    | zero =>
      cases h
      exact hdrawn
    | succ missing => cases h
  | succ fuel ih =>
    cases missing with
    | zero =>
      cases h
      exact hdrawn
    | succ missing =>
      rw [drawDistinct] at h
      split at h
      · cases h
      · next id r _ =>
        split at h
        · exact ih h hdrawn
        · next hnew =>
          have hnot : id ∉ drawn := fun hmem => hnew (List.contains_iff_mem.mpr hmem)
          refine ih h (List.nodup_append.mpr ⟨hdrawn, by simp, ?_⟩)
          rintro a ha b hb rfl
          rw [List.mem_singleton.mp hb] at ha
          exact hnot ha

theorem length_generateDistinct {count length : Nat} {ids : List String} {r : Random}
    (h : (generateDistinct count length r).1 = .ok ids) : ids.length = count := by
  have hlength := length_drawDistinct h
  rw [List.length_nil] at hlength
  omega

theorem nodup_generateDistinct {count length : Nat} {ids : List String} {r : Random}
    (h : (generateDistinct count length r).1 = .ok ids) : ids.Nodup :=
  nodup_drawDistinct h List.nodup_nil

end ShortLinks.Identifier
