import ShortLinks.Identifier

/-!
# Identifiers and the bytes they are drawn from

An identifier is spelled by the first bytes of the source that count. It takes no more requests than are needed to have
so many of them, and a request that fails before that ends it.
-/

set_option autoImplicit false

namespace ShortLinks

def Fill.bytes : Fill → Bytes
  | .buffer bytes => bytes.toList
  | .failure _ => []

namespace Random

variable {r : Random} {i n : Nat}

def advance (r : Random) (n : Nat) : Random := { r with requests := r.requests + n }

/-- The bytes that the next `n` requests give, one after the other. -/
def stream (r : Random) (n : Nat) : Bytes := (List.range n).flatMap fun i => (r.fill (r.requests + i)).bytes

def Gives (r : Random) (n : Nat) : Prop := ∀ i < n, ∃ bytes, r.fill (r.requests + i) = .buffer bytes

theorem stream_succ (r : Random) (n : Nat) : r.stream (n + 1) = r.stream n ++ (r.fill (r.requests + n)).bytes := by
  simp [stream, List.range_succ]

theorem stream_prefix (h : i ≤ n) : r.stream i <+: r.stream n := by
  obtain ⟨more, rfl⟩ := Nat.exists_eq_add_of_le h
  clear h
  induction more with
  | zero => exact List.prefix_rfl
  | succ more ih =>
    rw [← Nat.add_assoc, stream_succ]
    exact ih.trans (List.prefix_append _ _)

theorem Gives.mono (h : r.Gives n) (hi : i ≤ n) : r.Gives i := fun j hj => h j (by omega)

theorem Gives.succ_iff : r.Gives (n + 1) ↔ r.Gives n ∧ ∃ bytes, r.fill (r.requests + n) = .buffer bytes := by
  constructor
  · intro h
    exact ⟨h.mono (Nat.le_succ n), h n (Nat.lt_succ_self n)⟩
  · rintro ⟨h, hlast⟩ i hi
    obtain hi | rfl := Nat.lt_succ_iff_lt_or_eq.mp hi
    · exact h i hi
    · exact hlast

end Random

namespace Identifier

variable {length missing k n fuel code : Nat} {r : Random} {bytes : Vector UInt8 64}

def accepted (bytes : Bytes) : Bytes := bytes.filter (· < 248)

theorem alphabet_length : alphabet.length = 62 := by decide

def letter (b : UInt8) : Char := alphabet.get ⟨b.toNat % 62, alphabet_length ▸ Nat.mod_lt _ (by decide)⟩

def spelled (length : Nat) (bytes : Bytes) : String := String.ofList (((accepted bytes).take length).map letter)

theorem accepted_cons_pos {b : UInt8} (hb : b < 248) (bytes : Bytes) : accepted (b :: bytes) = b :: accepted bytes :=
  List.filter_cons_of_pos (decide_eq_true hb)

theorem accepted_cons_neg {b : UInt8} (hb : ¬ b < 248) (bytes : Bytes) : accepted (b :: bytes) = accepted bytes :=
  List.filter_cons_of_neg (by simpa using hb)

theorem lt_of_mem_accepted {b : UInt8} {bytes : Bytes} (h : b ∈ accepted bytes) : b < 248 :=
  of_decide_eq_true (List.mem_filter.mp h).2

theorem accepted_append (xs ys : Bytes) : accepted (xs ++ ys) = accepted xs ++ accepted ys :=
  List.filter_append xs ys

theorem length_accepted_mono {i : Nat} (h : i ≤ n) : (accepted (r.stream i)).length ≤ (accepted (r.stream n)).length :=
  ((Random.stream_prefix h).filter _).length_le

theorem accepted_stream_succ (hfill : r.fill (r.requests + n) = .buffer bytes) :
    accepted (r.stream (n + 1)) = accepted (r.stream n) ++ accepted bytes.toList := by
  rw [Random.stream_succ, hfill, accepted_append]
  rfl

theorem letter?_eq (b : UInt8) : letter? b = if b < 248 then some (letter b) else none := by
  have hlt : b < 248 ↔ b.toNat < acceptBelow := Iff.rfl
  simp only [letter?, letter, hlt]
  split
  · exact List.getElem?_eq_getElem _
  · rfl

theorem filterMap_letter? (bytes : Bytes) : bytes.filterMap letter? = (accepted bytes).map letter := by
  induction bytes with
  | nil => rfl
  | cons b bytes ih =>
    by_cases hb : b < 248
    · rw [List.filterMap_cons_some (by rw [letter?_eq, if_pos hb]), ih, accepted_cons_pos hb, List.map_cons]
    · rw [List.filterMap_cons_none (by rw [letter?_eq, if_neg hb]), ih, accepted_cons_neg hb]

theorem letters_eq (missing : Nat) (bytes : Vector UInt8 64) :
    letters missing bytes = ((accepted bytes.toList).take missing).map letter := by
  rw [letters, filterMap_letter?, List.map_take]

theorem isAlphanum_letter (b : UInt8) : (letter b).isAlphanum = true := by
  have hall : ∀ c ∈ alphabet, c.isAlphanum = true := List.all_eq_true.mp (by decide)
  exact hall _ (List.getElem_mem _)

/-- The next `k` requests succeed and do not give enough bytes that count. -/
structure RunsShort (length : Nat) (r : Random) (k : Nat) : Prop where
  gives : r.Gives k
  short : (accepted (r.stream k)).length < length

/-- The next `k` requests succeed and give enough bytes that count, and fewer requests do not. -/
structure Suffices (length : Nat) (r : Random) (k : Nat) : Prop where
  gives : r.Gives k
  enough : length ≤ (accepted (r.stream k)).length
  least (i : Nat) : i < k → (accepted (r.stream i)).length < length

structure BreaksOff (length : Nat) (r : Random) (k code : Nat) : Prop extends RunsShort length r k where
  fails : r.fill (r.requests + k) = .failure code

theorem RunsShort.mono {i : Nat} (h : RunsShort length r k) (hi : i ≤ k) : RunsShort length r i :=
  ⟨h.gives.mono hi, Nat.lt_of_le_of_lt (length_accepted_mono hi) h.short⟩

theorem Suffices.runsShort (h : Suffices length r (k + 1)) : RunsShort length r k :=
  ⟨h.gives.mono (Nat.le_succ k), h.least k (Nat.lt_succ_self k)⟩

theorem runsShort_or_ends (length : Nat) (r : Random) (n : Nat) : RunsShort length r n ∨
    (∃ k ≤ n, Suffices length r k) ∨ ∃ k < n, ∃ code, BreaksOff length r k code := by
  induction n with
  | zero =>
    have hgives : r.Gives 0 := fun i hi => absurd hi (Nat.not_lt_zero i)
    by_cases hlength : length = 0
    · exact .inr (.inl ⟨0, Nat.le_refl 0, hgives, by omega, fun i hi => absurd hi (Nat.not_lt_zero i)⟩)
    · exact .inl ⟨hgives, Nat.pos_of_ne_zero hlength⟩
  | succ n ih =>
    rcases ih with hshort | ⟨k, hk, h⟩ | ⟨k, hk, h⟩
    · cases hfill : r.fill (r.requests + n) with
      | failure code => exact .inr (.inr ⟨n, Nat.lt_succ_self n, code, hshort, hfill⟩)
      | buffer bytes =>
        have hgives := Random.Gives.succ_iff.mpr ⟨hshort.gives, bytes, hfill⟩
        by_cases henough : length ≤ (accepted (r.stream (n + 1))).length
        · exact .inr (.inl ⟨n + 1, Nat.le_refl _, hgives, henough, fun i hi => (hshort.mono (Nat.le_of_lt_succ hi)).short⟩)
        · exact .inl ⟨hgives, Nat.lt_of_not_le henough⟩
    · exact .inr (.inl ⟨k, Nat.le_succ_of_le hk, h⟩)
    · exact .inr (.inr ⟨k, Nat.lt_succ_of_lt hk, h⟩)

theorem draw_none (fuel : Nat) (r : Random) : draw fuel 0 r = (.ok [], r) := by
  cases fuel <;> rfl

theorem draw_failure (hmissing : 0 < missing) (hfill : r.fill (r.requests + k) = .failure code) :
    draw (fuel + 1) missing (r.advance k) = (.error (.randomSource code), r.advance (k + 1)) := by
  obtain ⟨missing, rfl⟩ := Nat.exists_eq_succ_of_ne_zero (Nat.ne_of_gt hmissing)
  have hnext : (r.advance k).next = (.failure code, r.advance (k + 1)) := congrArg (·, r.advance (k + 1)) hfill
  rw [draw, hnext]

theorem draw_buffer (hmissing : 0 < missing) (hfill : r.fill (r.requests + k) = .buffer bytes) :
    draw (fuel + 1) missing (r.advance k) =
      let rest := draw fuel (missing - (letters missing bytes).length) (r.advance (k + 1))
      (rest.1.map (letters missing bytes ++ ·), rest.2) := by
  obtain ⟨missing, rfl⟩ := Nat.exists_eq_succ_of_ne_zero (Nat.ne_of_gt hmissing)
  have hnext : (r.advance k).next = (.buffer bytes, r.advance (k + 1)) := congrArg (·, r.advance (k + 1)) hfill
  rw [draw, hnext]

/-- As long as bytes are missing, a draw keeps all that count and goes on for the rest. -/
theorem draw_of_runsShort (h : RunsShort missing r k) (fuel : Nat) : draw (k + fuel) missing r =
    let rest := draw fuel (missing - (accepted (r.stream k)).length) (r.advance k)
    (rest.1.map ((accepted (r.stream k)).map letter ++ ·), rest.2) := by
  -- The request that is added is the last one, as the stream grows at its end.
  induction k generalizing fuel with
  | zero =>
    rw [Nat.zero_add]
    show draw fuel missing r = ((draw fuel missing r).1.map id, (draw fuel missing r).2)
    rw [Except.map_id]
    rfl
  | succ k ih =>
    obtain ⟨bytes, hfill⟩ := h.gives k (Nat.lt_succ_self k)
    have hstream := accepted_stream_succ hfill
    have hshort := h.short
    rw [hstream, List.length_append] at hshort
    have hletters : letters (missing - (accepted (r.stream k)).length) bytes = (accepted bytes.toList).map letter := by
      rw [letters_eq, List.take_of_length_le (by omega)]
    rw [Nat.add_right_comm, Nat.add_assoc, ih (h.mono (Nat.le_succ k)), draw_buffer (by omega) hfill]
    simp only [hletters, List.length_map, hstream, List.length_append, ← Nat.sub_sub]
    cases draw fuel (missing - (accepted (r.stream k)).length - (accepted bytes.toList).length) (r.advance (k + 1)) with
    | mk outcome r' => cases outcome <;> simp [Except.map]

theorem draw_of_suffices (h : Suffices missing r k) (hfuel : k ≤ fuel) :
    draw fuel missing r = (.ok (((accepted (r.stream k)).take missing).map letter), r.advance k) := by
  cases k with
  | zero =>
    have hmissing : missing = 0 := Nat.le_zero.mp h.enough
    rw [hmissing, draw_none]
    rfl
  | succ k =>
    obtain ⟨fuel, rfl⟩ := Nat.exists_eq_add_of_le' hfuel
    obtain ⟨bytes, hfill⟩ := h.gives k (Nat.lt_succ_self k)
    have hstream := accepted_stream_succ hfill
    have hshort := h.runsShort.short
    have henough := h.enough
    rw [hstream, List.length_append] at henough
    have hletters := letters_eq (missing - (accepted (r.stream k)).length) bytes
    -- What the last buffer gives is all that is missing.
    have hnone : missing - (accepted (r.stream k)).length -
        (letters (missing - (accepted (r.stream k)).length) bytes).length = 0 := by
      rw [hletters, List.length_map, List.length_take]
      omega
    rw [show fuel + (k + 1) = k + (fuel + 1) by omega, draw_of_runsShort h.runsShort, draw_buffer (by omega) hfill]
    simp only [hnone, draw_none]
    simp [Except.map, hletters, hstream, List.take_append, List.take_of_length_le (Nat.le_of_lt hshort), List.map_take]

theorem draw_of_breaksOff (h : BreaksOff missing r k code) (hfuel : k < fuel) :
    draw fuel missing r = (.error (.randomSource code), r.advance (k + 1)) := by
  obtain ⟨fuel, rfl⟩ := Nat.exists_eq_add_of_lt hfuel
  have hshort := h.short
  rw [Nat.add_assoc, draw_of_runsShort h.toRunsShort, draw_failure (by omega) h.fails]
  rfl

theorem draw_of_patience (h : RunsShort missing r fuel) : draw fuel missing r = (.error .outOfPatience, r.advance fuel) := by
  have hshort := h.short
  obtain ⟨more, hmore⟩ := Nat.exists_eq_succ_of_ne_zero (show missing - (accepted (r.stream fuel)).length ≠ 0 by omega)
  have hdraw := draw_of_runsShort h 0
  rw [Nat.add_zero, hmore] at hdraw
  exact hdraw

/-- How an identifier comes of the bytes of a source. The patience only says when a source is given up that gives
nothing of use. -/
structure Follows (length : Nat) (r : Random) (outcome : Except DrawError String × Random) : Prop where
  /-- There is an identifier exactly if there are enough bytes that count before a request fails. The first of them spell
  it, and as many requests are made as it takes to have them. -/
  drawn_iff (id : String) (r' : Random) : outcome = (.ok id, r') ↔
    ∃ k ≤ r.patience, Suffices length r k ∧ id = spelled length (r.stream k) ∧ r' = r.advance k
  /-- A request that fails before that is the last one, and gives its failure. -/
  failed_iff (code : Nat) (r' : Random) : outcome = (.error (.randomSource code), r') ↔
    ∃ k < r.patience, BreaksOff length r k code ∧ r' = r.advance (k + 1)
  givenUp_iff (r' : Random) : outcome = (.error .outOfPatience, r') ↔
    RunsShort length r r.patience ∧ r' = r.advance r.patience
  alphanumeric (id : String) (r' : Random) : outcome = (.ok id, r') →
    id.length = length ∧ ∀ c ∈ id.toList, c.isAlphanum = true

theorem length_spelled (h : Suffices length r k) : (spelled length (r.stream k)).length = length := by
  simp [spelled, h.enough]

theorem generate_of_suffices (h : Suffices length r k) (hk : k ≤ r.patience) :
    generate length r = (.ok (spelled length (r.stream k)), r.advance k) := by
  rw [generate, draw_of_suffices h hk]
  rfl

theorem generate_of_breaksOff (h : BreaksOff length r k code) (hk : k < r.patience) :
    generate length r = (.error (.randomSource code), r.advance (k + 1)) := by
  rw [generate, draw_of_breaksOff h hk]
  rfl

theorem generate_of_patience (h : RunsShort length r r.patience) :
    generate length r = (.error .outOfPatience, r.advance r.patience) := by
  rw [generate, draw_of_patience h]
  rfl

theorem generate_eq_ok_iff {id : String} {r' : Random} : generate length r = (.ok id, r') ↔
    ∃ k ≤ r.patience, Suffices length r k ∧ id = spelled length (r.stream k) ∧ r' = r.advance k := by
  constructor
  · intro h
    rcases runsShort_or_ends length r r.patience with hshort | ⟨k, hk, hsuffices⟩ | ⟨k, hk, code, hfails⟩
    · rw [generate_of_patience hshort] at h
      cases h
    · rw [generate_of_suffices hsuffices hk] at h
      cases h
      exact ⟨k, hk, hsuffices, rfl, rfl⟩
    · rw [generate_of_breaksOff hfails hk] at h
      cases h
  · rintro ⟨k, hk, hsuffices, rfl, rfl⟩
    exact generate_of_suffices hsuffices hk

theorem generate_eq_failure_iff {r' : Random} : generate length r = (.error (.randomSource code), r') ↔
    ∃ k < r.patience, BreaksOff length r k code ∧ r' = r.advance (k + 1) := by
  constructor
  · intro h
    rcases runsShort_or_ends length r r.patience with hshort | ⟨k, hk, hsuffices⟩ | ⟨k, hk, code, hfails⟩
    · rw [generate_of_patience hshort] at h
      cases h
    · rw [generate_of_suffices hsuffices hk] at h
      cases h
    · rw [generate_of_breaksOff hfails hk] at h
      cases h
      exact ⟨k, hk, hfails, rfl⟩
  · rintro ⟨k, hk, hfails, rfl⟩
    exact generate_of_breaksOff hfails hk

theorem generate_eq_givenUp_iff {r' : Random} : generate length r = (.error .outOfPatience, r') ↔
    RunsShort length r r.patience ∧ r' = r.advance r.patience := by
  constructor
  · intro h
    rcases runsShort_or_ends length r r.patience with hshort | ⟨k, hk, hsuffices⟩ | ⟨k, hk, code, hfails⟩
    · rw [generate_of_patience hshort] at h
      cases h
      exact ⟨hshort, rfl⟩
    · rw [generate_of_suffices hsuffices hk] at h
      cases h
    · rw [generate_of_breaksOff hfails hk] at h
      cases h
  · rintro ⟨hshort, rfl⟩
    exact generate_of_patience hshort

theorem generate_follows (length : Nat) (r : Random) : Follows length r (generate length r) where
  drawn_iff _ _ := generate_eq_ok_iff
  failed_iff _ _ := generate_eq_failure_iff
  givenUp_iff _ := generate_eq_givenUp_iff
  alphanumeric id r' h := by
    obtain ⟨k, -, hsuffices, rfl, -⟩ := generate_eq_ok_iff.mp h
    refine ⟨length_spelled hsuffices, fun c hc => ?_⟩
    rw [spelled, String.toList_ofList] at hc
    obtain ⟨b, -, rfl⟩ := List.mem_map.mp hc
    exact isAlphanum_letter b

end Identifier
end ShortLinks
