import ShortLinks.Proofs.Identifier.Patience
import ShortLinks.Proofs.Identifier.Uniform

/-!
# Different identifiers

To have different identifiers one draws on, and passes over what was drawn before. The identifiers are the first different
ones that are drawn; no draw is made once there are enough of them, and a draw that fails before that ends it. How long a
source is waited for only decides whether it is given up: as soon as it is waited for long enough, the answer is the same
(`Settles`). There are only so many identifiers of a length, so no more of them can be had.
-/

set_option autoImplicit false

namespace ShortLinks

namespace Identifier

variable {length count missing fuel code patience : Nat} {r between after : Random} {id : String}
  {ids drawn draws : List String} {e : DrawError}

theorem isIdentifier_generate (h : (generate length r).1 = .ok id) : IsIdentifier length id := by
  obtain ⟨k, -, hsuffices, rfl, -⟩ := generate_eq_ok_iff.mp (Prod.ext h rfl)
  exact isIdentifier_spelled hsuffices.enough

namespace Draws

theorem isIdentifier (h : Draws (generate length) r draws after) (hid : id ∈ draws) : IsIdentifier length id := by
  obtain ⟨before, hdrawn⟩ := h.drawn_of_mem hid
  exact isIdentifier_generate hdrawn

end Draws

theorem length_le_of_nodup (hnodup : ids.Nodup) (hids : ∀ id ∈ ids, IsIdentifier length id) : ids.length ≤ 62 ^ length := by
  have hsubset : ids.toFinset ⊆ identifiers length := fun id hid => mem_identifiers.mpr (hids id (List.mem_toFinset.mp hid))
  calc ids.length = ids.toFinset.card := (List.toFinset_card_of_nodup hnodup).symm
    _ ≤ (identifiers length).card := Finset.card_le_card hsubset
    _ = 62 ^ length := card_identifiers length

theorem prefix_eraseDups (h : draws <+: drawn) : draws.eraseDups <+: drawn.eraseDups := by
  obtain ⟨rest, rfl⟩ := h
  rw [List.eraseDups_append]
  exact List.prefix_append _ _

theorem length_eraseDups_concat_le (draws : List String) (id : String) :
    (draws ++ [id]).eraseDups.length ≤ draws.eraseDups.length + 1 := by
  rw [eraseDups_concat]
  split
  · exact Nat.le_succ _
  · rw [List.length_append, List.length_singleton]

/-- The draws hold as many different identifiers as are asked for, and fewer draws do not. -/
structure Completes (count : Nat) (draws : List String) : Prop where
  enough : draws.eraseDups.length = count
  least (i : Nat) : i < draws.length → (draws.take i).eraseDups.length < count

theorem Draws.exists_completes (h : Draws (generate length) r draws after) (hcount : count ≤ draws.eraseDups.length) :
    ∃ needed between, needed <+: draws ∧ Draws (generate length) r needed between ∧ Completes count needed ∧
      needed.eraseDups = draws.eraseDups.take count := by
  induction draws using List.reverseRecOn generalizing after with
  | nil =>
    have hzero : count = 0 := Nat.le_zero.mp hcount
    subst hzero
    exact ⟨[], r, List.prefix_rfl, .nil r, ⟨rfl, nofun⟩, rfl⟩
  | append_singleton draws id ih =>
    by_cases hbefore : count ≤ draws.eraseDups.length
    · obtain ⟨between, hdraws, -⟩ := concat_iff.mp h
      obtain ⟨needed, after, hprefix, hneeded, hcompletes, htake⟩ := ih hdraws hbefore
      refine ⟨needed, after, hprefix.trans (List.prefix_append _ _), hneeded, hcompletes, ?_⟩
      obtain ⟨rest, hrest⟩ := prefix_eraseDups (List.prefix_append draws [id])
      rw [htake, ← hrest, List.take_append_of_le_length hbefore]
    · have hshort := Nat.lt_of_not_le hbefore
      have hadds := length_eraseDups_concat_le draws id
      refine ⟨_, _, List.prefix_rfl, h, ⟨by omega, fun i hi => ?_⟩, (List.take_of_length_le (by omega)).symm⟩
      rw [List.length_append, List.length_singleton] at hi
      rw [List.take_append_of_le_length (Nat.le_of_lt_succ hi)]
      exact Nat.lt_of_le_of_lt (prefix_eraseDups (List.take_prefix i draws)).length_le hshort

/-- Within any number of draws there are enough, or one fails, or one goes on. -/
theorem lacks_or_ends (count length : Nat) (r : Random) (n : Nat) :
    (∃ draws between, draws.length = n ∧ Draws (generate length) r draws between ∧ draws.eraseDups.length < count) ∨
    (∃ draws after, draws.length ≤ n ∧ Draws (generate length) r draws after ∧ Completes count draws) ∨
    ∃ draws between e after, draws.length < n ∧ Draws (generate length) r draws between ∧
      draws.eraseDups.length < count ∧ generate length between = (.error e, after) := by
  induction n with
  | zero =>
    cases count with
    | zero => exact .inr (.inl ⟨[], r, Nat.le_refl 0, .nil r, rfl, nofun⟩)
    | succ count => exact .inl ⟨[], r, rfl, .nil r, Nat.succ_pos count⟩
  | succ n ih =>
    rcases ih with ⟨draws, between, rfl, hdraws, hshort⟩ | ⟨draws, after, hn, h⟩ | ⟨draws, between, e, after, hn, h⟩
    · cases hdraw : (generate length between).1 with
      | error e => exact .inr (.inr ⟨draws, between, e, _, Nat.lt_succ_self _, hdraws, hshort, Prod.ext hdraw rfl⟩)
      | ok id =>
        have hnext := Draws.concat_iff.mpr ⟨between, hdraws, Prod.ext hdraw rfl⟩
        have hlength : (draws ++ [id]).length = draws.length + 1 := List.length_append
        by_cases henough : count ≤ (draws ++ [id]).eraseDups.length
        · obtain ⟨needed, after, hprefix, hneeded, hcompletes, -⟩ := hnext.exists_completes henough
          exact .inr (.inl ⟨needed, after, hlength ▸ hprefix.length_le, hneeded, hcompletes⟩)
        · exact .inl ⟨_, _, hlength, hnext, Nat.lt_of_not_le henough⟩
    · exact .inr (.inl ⟨draws, after, Nat.le_succ_of_le hn, h⟩)
    · exact .inr (.inr ⟨draws, between, e, after, Nat.lt_succ_of_lt hn, h⟩)

theorem drawDistinct_error (hmissing : 0 < missing) (hdraw : generate length r = (.error e, after)) :
    drawDistinct length (fuel + 1) missing drawn r = (.error e, after) := by
  obtain ⟨missing, rfl⟩ := Nat.exists_eq_succ_of_ne_zero (Nat.ne_of_gt hmissing)
  rw [drawDistinct, hdraw]

theorem drawDistinct_next (hshort : draws.eraseDups.length < count) (hdraw : generate length r = (.ok id, after)) :
    drawDistinct length (fuel + 1) (count - draws.eraseDups.length) draws.eraseDups r =
      drawDistinct length fuel (count - (draws ++ [id]).eraseDups.length) (draws ++ [id]).eraseDups after := by
  obtain ⟨missing, hmissing⟩ := Nat.exists_eq_succ_of_ne_zero (show count - draws.eraseDups.length ≠ 0 by omega)
  rw [hmissing, drawDistinct, hdraw, eraseDups_concat]
  by_cases hid : id ∈ draws
  · have hknown : draws.eraseDups.contains id = true := List.contains_iff_mem.mpr (List.mem_eraseDups.mpr hid)
    simp only [hknown, if_true, if_pos hid, hmissing]
  · have hnew : draws.eraseDups.contains id = false := by simpa using hid
    have hrest : count - (draws.eraseDups ++ [id]).length = missing := by
      rw [List.length_append, List.length_singleton]
      omega
    simp only [hnew, Bool.false_eq_true, if_false, if_neg hid, hrest]

/-- As long as identifiers are missing, the different ones are kept and one draws on for the rest. -/
theorem drawDistinct_of_draws (h : Draws (generate length) r draws between)
    (hshort : ∀ i < draws.length, (draws.take i).eraseDups.length < count) (fuel : Nat) :
    drawDistinct length (draws.length + fuel) count [] r =
      drawDistinct length fuel (count - draws.eraseDups.length) draws.eraseDups between := by
  -- The draw that is added is the last one, so the fuel for it is what the draws before it leave.
  induction draws using List.reverseRecOn generalizing between fuel with
  | nil =>
    cases h
    rw [List.length_nil, Nat.zero_add]
    rfl
  | append_singleton draws id ih =>
    obtain ⟨before, hdraws, hdraw⟩ := Draws.concat_iff.mp h
    rw [List.length_append, List.length_singleton] at hshort ⊢
    have hfirst (i : Nat) (hi : i ≤ draws.length) : (draws.take i).eraseDups.length < count := by
      rw [← List.take_append_of_le_length hi]
      exact hshort i (Nat.lt_succ_of_le hi)
    have hlast := hfirst draws.length le_rfl
    rw [List.take_length] at hlast
    rw [Nat.add_assoc, Nat.add_comm 1, ih hdraws fun i hi => hfirst i hi.le]
    exact drawDistinct_next hlast hdraw

theorem drawDistinct_of_lacks (h : Draws (generate length) r draws between) (hshort : draws.eraseDups.length < count)
    (fuel : Nat) : drawDistinct length (draws.length + fuel) count [] r =
      drawDistinct length fuel (count - draws.eraseDups.length) draws.eraseDups between := by
  refine drawDistinct_of_draws h (fun i _ => ?_) fuel
  exact Nat.lt_of_le_of_lt (prefix_eraseDups (List.take_prefix i draws)).length_le hshort

theorem generateDistinct_of_completes (h : Draws (generate length) r draws after) (hcompletes : Completes count draws)
    (hn : draws.length ≤ r.patience) : generateDistinct count length r = (.ok draws.eraseDups, after) := by
  obtain ⟨fuel, hfuel⟩ := Nat.exists_eq_add_of_le hn
  rw [generateDistinct, hfuel, drawDistinct_of_draws h hcompletes.least, hcompletes.enough, Nat.sub_self,
    drawDistinct_none]

/-- Drawing stops with a failure: one draw fails, or there were as many draws as the source is waited for. -/
def Stops (length : Nat) (r : Random) (draws : List String) (between : Random) (e : DrawError) (after : Random) : Prop :=
  (draws.length < r.patience ∧ generate length between = (.error e, after)) ∨
    draws.length = r.patience ∧ e = .outOfPatience ∧ after = between

theorem generateDistinct_of_stops (h : Draws (generate length) r draws between) (hshort : draws.eraseDups.length < count)
    (hstops : Stops length r draws between e after) : generateDistinct count length r = (.error e, after) := by
  rcases hstops with ⟨hn, hdraw⟩ | ⟨hn, rfl, rfl⟩
  · obtain ⟨fuel, hfuel⟩ := Nat.exists_eq_add_of_lt hn
    rw [generateDistinct, hfuel, Nat.add_assoc, drawDistinct_of_lacks h hshort, drawDistinct_error (by omega) hdraw]
  · obtain ⟨missing, hmissing⟩ := Nat.exists_eq_succ_of_ne_zero (show count - draws.eraseDups.length ≠ 0 by omega)
    have hdrawn := drawDistinct_of_lacks h hshort 0
    rw [Nat.add_zero, hn, hmissing] at hdrawn
    exact hdrawn

theorem completes_or_stops (count length : Nat) (r : Random) :
    (∃ draws after, draws.length ≤ r.patience ∧ Draws (generate length) r draws after ∧ Completes count draws) ∨
    ∃ draws between e after, Draws (generate length) r draws between ∧ draws.eraseDups.length < count ∧
      Stops length r draws between e after := by
  rcases lacks_or_ends count length r r.patience with
    ⟨draws, between, hn, hdraws, hshort⟩ | h | ⟨draws, between, e, after, hn, hdraws, hshort, hdraw⟩
  · exact .inr ⟨draws, between, _, _, hdraws, hshort, .inr ⟨hn, rfl, rfl⟩⟩
  · exact .inl h
  · exact .inr ⟨draws, between, e, after, hdraws, hshort, .inl ⟨hn, hdraw⟩⟩

theorem generateDistinct_eq_ok_iff : generateDistinct count length r = (.ok ids, after) ↔
    ∃ draws, draws.length ≤ r.patience ∧ Draws (generate length) r draws after ∧ Completes count draws ∧
      ids = draws.eraseDups := by
  constructor
  · intro h
    rcases completes_or_stops count length r with ⟨draws, after, hn, hdraws, hcompletes⟩ |
      ⟨draws, between, e, after, hdraws, hshort, hstops⟩
    · rw [generateDistinct_of_completes hdraws hcompletes hn] at h
      cases h
      exact ⟨draws, hn, hdraws, hcompletes, rfl⟩
    · rw [generateDistinct_of_stops hdraws hshort hstops] at h
      cases h
  · rintro ⟨draws, hn, hdraws, hcompletes, rfl⟩
    exact generateDistinct_of_completes hdraws hcompletes hn

theorem generateDistinct_eq_error_iff : generateDistinct count length r = (.error e, after) ↔
    ∃ draws between, Draws (generate length) r draws between ∧ draws.eraseDups.length < count ∧
      Stops length r draws between e after := by
  constructor
  · intro h
    rcases completes_or_stops count length r with ⟨draws, after, hn, hdraws, hcompletes⟩ |
      ⟨draws, between, e, after, hdraws, hshort, hstops⟩
    · rw [generateDistinct_of_completes hdraws hcompletes hn] at h
      cases h
    · rw [generateDistinct_of_stops hdraws hshort hstops] at h
      cases h
      exact ⟨draws, between, hdraws, hshort, hstops⟩
  · rintro ⟨draws, between, hdraws, hshort, hstops⟩
    exact generateDistinct_of_stops hdraws hshort hstops

example : (generateDistinct 2 1 ⟨Random.after [Random.repeated [0], Random.repeated [0]] fun _ => Random.repeated [1], 0, 3⟩).1 =
    .ok ["a", "b"] := by
  decide +kernel

end Identifier

namespace Service

open Identifier (Draws Completes Stops DrawError IsIdentifier generate generateDistinct)

variable {σ : Type} {s s' : Service σ} {count : Nat} {outcome : Except DrawError (List String)} {after : Random}

/-- Drawing different identifiers ends like this and leaves this source, however long the source is waited for from some
time on. -/
def Settles (s : Service σ) (count : Nat) (outcome : Except ServiceError (List String)) (after : Random) : Prop :=
  ∃ enough, ∀ patience ≥ enough,
    (draw (generateDistinct count s.shortIdLength)).run (s.withRandom (s.random.withPatience patience)) =
      ⟨outcome, s.withRandom (after.withPatience patience), []⟩

/-- How different identifiers come of the draws of a service. -/
structure DrawsDistinct (s : Service σ) (count : Nat) : Prop where
  /-- If enough different ones are drawn before a draw fails, the answer is the first of them in the order in which they
  appear, and no draw is made beyond those that it takes. -/
  drawn (patience : Nat) (draws : List String) (after : Random) :
    Draws (generate s.shortIdLength) (s.random.withPatience patience) draws after → count ≤ draws.eraseDups.length →
    ∃ needed between, needed <+: draws ∧
      Draws (generate s.shortIdLength) (s.random.withPatience patience) needed between ∧ Completes count needed ∧
      s.Settles count (.ok (draws.eraseDups.take count)) between
  /-- A draw that fails before that is the last one, and the answer is its failure. -/
  failed (patience : Nat) (draws : List String) (between after : Random) (code : Nat) :
    Draws (generate s.shortIdLength) (s.random.withPatience patience) draws between → draws.eraseDups.length < count →
    generate s.shortIdLength between = (.error (.randomSource code), after) →
    s.Settles count (.error (.noIdentifier (DrawError.randomSource code).message)) after
  /-- However long the source is waited for, nothing else is answered with. -/
  drawn_only (ids : List String) (s' : Service σ) :
    (draw (generateDistinct count s.shortIdLength)).Ends s (.ok ids) s' →
    ∃ draws after, Draws (generate s.shortIdLength) s.random draws after ∧ Completes count draws ∧
      ids = draws.eraseDups ∧ s' = s.withRandom after
  failed_only (e : ServiceError) (s' : Service σ) :
    (draw (generateDistinct count s.shortIdLength)).Ends s (.error e) s' →
    ∃ draws between cause after, Draws (generate s.shortIdLength) s.random draws between ∧
      draws.eraseDups.length < count ∧ Stops s.shortIdLength s.random draws between cause after ∧
      e = .noIdentifier cause.message ∧ s' = s.withRandom after
  identifiers (ids : List String) (s' : Service σ) :
    (draw (generateDistinct count s.shortIdLength)).Ends s (.ok ids) s' →
    ids.length = count ∧ ids.Nodup ∧ (∀ id ∈ ids, IsIdentifier s.shortIdLength id) ∧ count ≤ 62 ^ s.shortIdLength

theorem draw_run_of_eq {f : Random → Except DrawError (List String) × Random} (h : f s.random = (outcome, after)) :
    (draw f).run s = ⟨outcome.mapError fun e => .noIdentifier e.message, s.withRandom after, []⟩ := by
  show Effect.mk _ _ _ = _
  rw [h]
  rfl

/-- Different identifiers for a service are the first different ones that are drawn for it, and as many as were asked for. -/
theorem draws_distinct (s : Service σ) (count : Nat) : s.DrawsDistinct count where
  drawn patience draws after hdraws hcount := by
    obtain ⟨needed, between, hprefix, hneeded, hcompletes, htake⟩ := hdraws.exists_completes hcount
    refine ⟨needed, between, hprefix, hneeded, hcompletes, max patience needed.length, fun longer hlonger => ?_⟩
    obtain ⟨hpatience, hlength⟩ := max_le_iff.mp hlonger
    have hends := Identifier.generateDistinct_of_completes (hneeded.withPatience hpatience) hcompletes hlength
    rw [← htake]
    exact draw_run_of_eq (s := s.withRandom _) hends
  failed patience draws between after code hdraws hshort hdraw := by
    refine ⟨max patience (draws.length + 1), fun longer hlonger => ?_⟩
    obtain ⟨hpatience, hlength⟩ := max_le_iff.mp hlonger
    have hfails := Identifier.generate_failure_withPatience hdraw (hdraws.patience_eq.trans_le hpatience)
    have hends := Identifier.generateDistinct_of_stops (hdraws.withPatience hpatience) hshort (.inl ⟨hlength, hfails⟩)
    exact draw_run_of_eq (s := s.withRandom _) hends
  drawn_only ids s' hends := by
    obtain ⟨hids, rfl⟩ := draw_ok_iff.mp hends
    obtain ⟨draws, -, hdraws, hcompletes, hsame⟩ := Identifier.generateDistinct_eq_ok_iff.mp (Prod.ext hids rfl)
    exact ⟨draws, _, hdraws, hcompletes, hsame, rfl⟩
  failed_only e s' hends := by
    cases hdrawn : (generateDistinct count s.shortIdLength s.random).1 with
    | ok ids =>
      obtain ⟨heq, -⟩ := hends.unique (draw_ok_iff.mpr ⟨hdrawn, rfl⟩)
      cases heq
    | error cause =>
      obtain ⟨heq, rfl⟩ := hends.unique (draw_fails hdrawn)
      cases heq
      obtain ⟨draws, between, hdraws, hshort, hstops⟩ := Identifier.generateDistinct_eq_error_iff.mp (Prod.ext hdrawn rfl)
      exact ⟨draws, between, cause, _, hdraws, hshort, hstops, rfl, rfl⟩
  identifiers ids s' hends := by
    obtain ⟨hids, -⟩ := draw_ok_iff.mp hends
    have hlength := Identifier.length_generateDistinct hids
    have hnodup := Identifier.nodup_generateDistinct hids
    obtain ⟨draws, -, hdraws, -, rfl⟩ := Identifier.generateDistinct_eq_ok_iff.mp (Prod.ext hids rfl)
    have hall : ∀ id ∈ draws.eraseDups, IsIdentifier s.shortIdLength id :=
      fun id hid => hdraws.isIdentifier (List.mem_eraseDups.mp hid)
    exact ⟨hlength, hnodup, hall, hlength ▸ Identifier.length_le_of_nodup hnodup hall⟩

end Service
end ShortLinks
