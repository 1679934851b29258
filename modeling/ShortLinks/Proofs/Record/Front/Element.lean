import ShortLinks.Proofs.Record.Front.Member

/-!
# Fronts of arrays
-/

set_option autoImplicit false

namespace ShortLinks.Record

theorem nextElement_front {isFirst more : Bool} {s t : Bytes} (h : nextElement isFirst s = .ok (more, t)) :
    FrontOf (fun a c => nextElement isFirst a = .ok (more, c)) s t := by
  have hblanks := skipBlanks_front s
  unfold nextElement at h
  split at h
  · cases h
  · next u hu =>
    cases h
    rw [hu] at hblanks
    refine hblanks.mono fun a c _ hc ha => ?_
    obtain ⟨w, rfl⟩ := eq_cons_of_head? hc
    simp [nextElement, ha]
  · next u hu =>
    split at h
    · next hfirst =>
      cases h
      rw [hu] at hblanks
      refine hblanks.mono fun a c _ hc ha => ?_
      obtain ⟨w, rfl⟩ := eq_cons_of_head? hc
      simp [nextElement, ha, hfirst]
    · next hfirst =>
      split at h
      · cases h
      · cases h
      · next hne hclose =>
        cases h
        refine .afterBlanks hu (skipBlanks_front u) fun a v c _ hc ha hv => ?_
        obtain ⟨b, w, hw⟩ := List.exists_cons_of_ne_nil fun hnil => hne hnil
        rw [hw] at hc
        obtain ⟨x, rfl⟩ := eq_cons_of_head? hc
        have hb : b ≠ 93 := fun hb => hclose w (hb ▸ hw)
        simp [nextElement, ha, hfirst, hv]
        split <;> simp_all
  · next hne hclose hcomma =>
    split at h
    · next hfirst =>
      cases h
      refine hblanks.mono fun a c _ hc ha => ?_
      obtain ⟨b, w, hw⟩ := List.exists_cons_of_ne_nil fun hnil => hne hnil
      rw [hw] at hc
      obtain ⟨x, rfl⟩ := eq_cons_of_head? hc
      have hb : b ≠ 93 := fun hb => hclose w (hb ▸ hw)
      have hb' : b ≠ 44 := fun hb => hcomma w (hb ▸ hw)
      simp [nextElement, ha, hfirst]
      split <;> simp_all
    · cases h

/-- What reading an array comes to: it ends before this element, or the element is read first. -/
theorem readElements_cons_eq_ok {isFirst : Bool} {m m' : Members} {field : Field} {fields : List Field} {n : Nat}
    {s t : Bytes} :
    readElements isFirst m (field :: fields) s = .ok ((m', n), t) ↔
      (nextElement isFirst s = .ok (false, t) ∧ m' = m ∧ n = 0) ∨
      ∃ u m₁ v k, nextElement isFirst s = .ok (true, u) ∧ m.read field u = .ok (m₁, v) ∧
        readElements false m₁ fields v = .ok ((m', k), t) ∧ n = k + 1 := by
  rw [readElements]
  cases hs : nextElement isFirst s with
  | error e => simp [bind, Except.bind]
  | ok r =>
    obtain ⟨more, u⟩ := r
    cases more with
    | false =>
      simp [bind, Except.bind, pure, Except.pure]
      grind
    | true =>
      cases hu : m.read field u with
      | error e => simp [bind, Except.bind, hu]
      | ok r =>
        obtain ⟨m₁, v⟩ := r
        cases hv : readElements false m₁ fields v with
        | error e => simp [bind, Except.bind, hu, hv]
        | ok r =>
          obtain ⟨⟨m₂, k⟩, w⟩ := r
          simp [bind, Except.bind, pure, Except.pure, hu, hv]
          grind

theorem readElements_front {isFirst : Bool} {m m' : Members} {fields : List Field} {n : Nat} {s t : Bytes}
    (h : readElements isFirst m fields s = .ok ((m', n), t)) :
    FrontOf (fun a c => readElements isFirst m fields a = .ok ((m', n), c)) s t := by
  induction fields generalizing isFirst m n s with
  | nil =>
    cases h
    exact .exactly [] t fun c _ => rfl
  | cons field fields ih =>
    rcases readElements_cons_eq_ok.mp h with ⟨hs, rfl, rfl⟩ | ⟨u, m₁, v, k, hs, hu, hv, rfl⟩
    · refine (nextElement_front hs).mono fun a c _ _ ha => ?_
      exact readElements_cons_eq_ok.mpr (.inl ⟨ha, rfl, rfl⟩)
    · have helement := (read_front hu).trans (ih hv)
        (H := fun a c => ∃ b, m.read field a = .ok (m₁, b) ∧ readElements false m₁ fields b = .ok ((m', k), c))
        fun a b c _ _ ha hb => ⟨b, ha, hb⟩
      refine (nextElement_front hs).trans helement ?_
      rintro a b c - - ha ⟨d, hb, hd⟩
      exact readElements_cons_eq_ok.mpr (.inr ⟨b, m₁, d, k, ha, hb, hd, rfl⟩)

theorem closeArray_eq_ok {s t : Bytes} : closeArray s = .ok t ↔ skipBlanks s = 93 :: t := by
  unfold closeArray
  split
  · next hs => simp [hs]
  · next hs => split <;> simp [hs]
  · next hs => simp [hs]
  · next hclose _ _ =>
    constructor
    · intro h
      cases h
    · intro h
      exact absurd h (hclose t)

theorem readArray_front {s t : Bytes} {e : Entry} (h : readArray s = .ok (e, t)) :
    ∃ front, s = front ++ 93 :: t ∧ ∀ other, readArray (front ++ 93 :: other) = .ok (e, other) := by
  unfold readArray at h
  obtain ⟨⟨⟨m, n⟩, u⟩, hm, hu⟩ := bind_eq_ok.mp h
  cases he : m.entry with
  | error field => simp [he, throw, throwThe, MonadExceptOf.throw] at hu
  | ok entry =>
    simp only [he] at hu
    obtain ⟨v, hv, hvt⟩ := bind_eq_ok.mp hu
    cases hvt
    have hblanks := skipBlanks_front u
    rw [closeArray_eq_ok.mp hv] at hblanks
    obtain ⟨front, hs, hfront⟩ := (readElements_front hm).trans hblanks
      (H := fun a c => ∃ b, readElements true Members.empty Field.all a = .ok ((m, n), b) ∧ skipBlanks b = c)
      fun a b c _ _ ha hb => ⟨b, ha, hb⟩
    refine ⟨front, hs, fun other => ?_⟩
    obtain ⟨b, hb, hbc⟩ := hfront (93 :: other) rfl
    unfold readArray
    rw [hb]
    simp [bind, Except.bind, pure, Except.pure, he, closeArray_eq_ok.mpr hbc]

end ShortLinks.Record
