import ShortLinks.Proofs.Record.Front.Skip

/-!
# Fronts of objects

An object is read member by member. How many members may be read is no limit as long as there are as many as the
input has bytes.
-/

set_option autoImplicit false

namespace ShortLinks.Record

theorem wrongType_ne_ok {α : Type} (wanted : Wanted) (s : Bytes) (r : α × Bytes) : wrongType wanted s ≠ .ok r := by
  unfold wrongType
  split <;> simp

theorem readTextValue_front {s t : Bytes} {text : String} (h : readTextValue s = .ok (text, t)) :
    FrontOf (fun a c => readTextValue a = .ok (text, c)) s t := by
  unfold readTextValue at h
  split at h
  · cases h
  · next u hu =>
    refine .afterBlanks hu (readText_front h) fun a v c _ _ ha hc => ?_
    simpa [readTextValue, ha] using hc
  · exact absurd h (wrongType_ne_ok _ _ _)

theorem readOptionalText_front {s t : Bytes} {text : Option String} (h : readOptionalText s = .ok (text, t)) :
    FrontOf (fun a c => readOptionalText a = .ok (text, c)) s t := by
  unfold readOptionalText at h
  split at h
  · next u hu =>
    obtain ⟨r, hr, hrt⟩ := map_eq_ok.mp h
    cases hrt
    refine .afterBlanks hu (word_front hr) fun a v c _ _ ha hc => ?_
    simp [readOptionalText, ha, hc, Except.map]
  · next hs =>
    obtain ⟨⟨v, r⟩, hr, hrt⟩ := map_eq_ok.mp h
    cases hrt
    refine (skipBlanks_front s).trans (readTextValue_front hr) fun a b c hb _ ha hc => ?_
    unfold readOptionalText
    split
    · next u hu =>
      rw [← ha, hu] at hb
      obtain ⟨w, hw⟩ := eq_cons_of_head? hb.symm
      exact absurd hw (hs w)
    · rw [ha, hc]
      rfl

theorem readBoolean_front {s t : Bytes} {v : Bool} (h : readBoolean s = .ok (v, t)) :
    FrontOf (fun a c => readBoolean a = .ok (v, c)) s t := by
  unfold readBoolean at h
  split at h
  · cases h
  · next u hu =>
    obtain ⟨r, hr, hrt⟩ := map_eq_ok.mp h
    cases hrt
    refine .afterBlanks hu (word_front hr) fun a w c _ _ ha hc => ?_
    simp [readBoolean, ha, hc, Except.map]
  · next u hu =>
    obtain ⟨r, hr, hrt⟩ := map_eq_ok.mp h
    cases hrt
    refine .afterBlanks hu (word_front hr) fun a w c _ _ ha hc => ?_
    simp [readBoolean, ha, hc, Except.map]
  · exact absurd h (wrongType_ne_ok _ _ _)

theorem read_front {m m' : Members} {field : Field} {s t : Bytes} (h : m.read field s = .ok (m', t)) :
    FrontOf (fun a c => m.read field a = .ok (m', c)) s t := by
  cases field <;> (obtain ⟨⟨v, r⟩, hr, hrt⟩ := map_eq_ok.mp h; cases hrt)
  case id => exact (readTextValue_front hr).mono fun a c _ _ ha => map_eq_ok.mpr ⟨_, ha, rfl⟩
  case target => exact (readTextValue_front hr).mono fun a c _ _ ha => map_eq_ok.mpr ⟨_, ha, rfl⟩
  case owner => exact (readOptionalText_front hr).mono fun a c _ _ ha => map_eq_ok.mpr ⟨_, ha, rfl⟩
  case correlation => exact (readOptionalText_front hr).mono fun a c _ _ ha => map_eq_ok.mpr ⟨_, ha, rfl⟩
  case deleted => exact (readBoolean_front hr).mono fun a c _ _ ha => map_eq_ok.mpr ⟨_, ha, rfl⟩

theorem skipColon_front {s t : Bytes} (h : skipColon s = .ok t) :
    FrontOf (fun a c => skipColon a = .ok c) s t := by
  unfold skipColon at h
  split at h
  · next u hu =>
    cases h
    refine .afterBlanks (G := fun a c => a = c) hu (.exactly [] t fun _ _ => rfl) fun a v c _ _ ha hv => ?_
    simp [skipColon, ha, hv]
  · cases h
  · cases h

theorem readMember_eq_ok {m m' : Members} {s t : Bytes} :
    readMember m s = .ok (m', t) ↔ ∃ key u v, readText s = .ok (key, u) ∧ skipColon u = .ok v ∧
      match Field.ofName? key with
      | some field => m.has field = false ∧ m.read field v = .ok (m', t)
      | none => m = m' ∧ skipValue v = .ok t := by
  unfold readMember
  cases hs : readText s with
  | error e => simp [bind, Except.bind]
  | ok r =>
    obtain ⟨key, u⟩ := r
    cases hkey : Field.ofName? key with
    | none =>
      cases hu : skipColon u with
      | error e => simp [bind, Except.bind, hkey, hu]
      | ok v => cases hv : skipValue v <;> simp [bind, Except.bind, pure, Except.pure, and_assoc, hkey, hu, hv]
    | some field =>
      by_cases hf : m.has field = true
      · simp [bind, Except.bind, hkey, hf, throw, throwThe, MonadExceptOf.throw]
      · cases hu : skipColon u <;> simp [bind, Except.bind, and_assoc, hkey, hu, hf]

theorem readMember_front {m m' : Members} {s t : Bytes} (h : readMember m s = .ok (m', t)) :
    FrontOf (fun a c => readMember m a = .ok (m', c)) s t := by
  obtain ⟨key, u, v, hs, hu, hv⟩ := readMember_eq_ok.mp h
  have hkey : FrontOf (fun a c => ∃ b, readText a = .ok (key, b) ∧ skipColon b = .ok c) s v :=
    (readText_front hs).trans (skipColon_front hu) fun a b c _ _ ha hb => ⟨b, ha, hb⟩
  cases hf : Field.ofName? key with
  | none =>
    rw [hf] at hv
    refine hkey.trans (skipValue_front hv.2) ?_
    rintro a d c - - ⟨b, hb, hd⟩ hc
    exact readMember_eq_ok.mpr ⟨key, b, d, hb, hd, by rw [hf]; exact ⟨hv.1, hc⟩⟩
  | some field =>
    rw [hf] at hv
    refine hkey.trans (read_front hv.2) ?_
    rintro a d c - - ⟨b, hb, hd⟩ hc
    exact readMember_eq_ok.mpr ⟨key, b, d, hb, hd, by rw [hf]; exact ⟨hv.1, hc⟩⟩

/-- A member of an object starts with the quote of its key, after a comma unless it is the first one. -/
def startsMember (isFirst : Bool) (s u : Bytes) : Prop :=
  if isFirst then skipBlanks s = 34 :: u else ∃ t, skipBlanks s = 44 :: t ∧ skipBlanks t = 34 :: u

theorem startsMember_length_lt {isFirst : Bool} {s u : Bytes} (h : startsMember isFirst s u) :
    u.length < s.length := by
  have hs := length_skipBlanks_le s
  unfold startsMember at h
  split at h
  · rw [h, List.length_cons] at hs
    omega
  · obtain ⟨t, ht, hu⟩ := h
    have hlt := length_skipBlanks_le t
    rw [ht, List.length_cons] at hs
    rw [hu, List.length_cons] at hlt
    omega

theorem FrontOf.afterStart {G H : Bytes → Bytes → Prop} {isFirst : Bool} {s t rest : Bytes}
    (hs : startsMember isFirst s t) (h : FrontOf G t rest)
    (hH : ∀ a u c, startsMember isFirst a u → G u c → H a c) : FrontOf H s rest := by
  cases isFirst with
  | true => exact .afterBlanks hs h fun a u c _ _ ha hc => hH a u c ha hc
  | false =>
    obtain ⟨v, hv, ht⟩ := hs
    have hquote : FrontOf (fun a c => ∃ u, skipBlanks a = 34 :: u ∧ G u c) v rest :=
      .afterBlanks ht h fun a u c _ _ ha hc => ⟨u, ha, hc⟩
    refine .afterBlanks hv hquote ?_
    rintro a v' c - - ha ⟨u, hu, hc⟩
    exact hH a u c ⟨v', ha, hu⟩ hc

theorem readMembers_member {fuel : Nat} {isFirst : Bool} {m : Members} {s u : Bytes}
    (h : startsMember isFirst s u) :
    readMembers (fuel + 1) isFirst m s = (readMember m u).bind fun (m, s) => readMembers fuel false m s := by
  cases isFirst with
  | true =>
    have hs : skipBlanks s = 34 :: u := h
    simp [readMembers, hs]
  | false =>
    obtain ⟨t, ht, hu⟩ := h
    simp [readMembers, ht, hu]

theorem readMembers_close {fuel : Nat} {isFirst : Bool} {m : Members} {s t : Bytes}
    (h : skipBlanks s = 125 :: t) : readMembers (fuel + 1) isFirst m s = .ok (m, 125 :: t) := by
  simp [readMembers, h]

/-- What reading members comes to: the object ends here, or one more member is read first. -/
theorem readMembers_cases {fuel : Nat} {isFirst : Bool} {m m' : Members} {s t : Bytes}
    (h : readMembers (fuel + 1) isFirst m s = .ok (m', t)) :
    (m' = m ∧ skipBlanks s = t ∧ ∃ u, t = 125 :: u) ∨
      ∃ u m₁ v, startsMember isFirst s u ∧ readMember m u = .ok (m₁, v) ∧
        readMembers fuel false m₁ v = .ok (m', t) := by
  unfold readMembers at h
  split at h
  · cases h
  · next u hu =>
    cases h
    exact .inl ⟨rfl, hu, u, rfl⟩
  · next u hu =>
    split at h
    · next hfirst =>
      obtain ⟨⟨m₁, v⟩, hm, hv⟩ := bind_eq_ok.mp h
      exact .inr ⟨u, m₁, v, by simp [startsMember, hfirst, hu], hm, hv⟩
    · cases h
  · next u hu =>
    split at h
    · cases h
    · next hfirst =>
      split at h
      · cases h
      · next w hw =>
        obtain ⟨⟨m₁, v⟩, hm, hv⟩ := bind_eq_ok.mp h
        exact .inr ⟨w, m₁, v, by simp [startsMember, hfirst, hu, hw], hm, hv⟩
      · cases h
      · cases h
  · cases h

theorem readMembers_front {fuel : Nat} {isFirst : Bool} {m m' : Members} {s t : Bytes}
    (h : readMembers fuel isFirst m s = .ok (m', t)) :
    (∃ u, t = 125 :: u) ∧ FrontOf (fun a c => c.length ≤ a.length ∧
      ∀ fuel, a.length < fuel + c.length → readMembers fuel isFirst m a = .ok (m', c)) s t := by
  induction fuel generalizing isFirst m s with
  | zero => cases h
  | succ fuel ih =>
    rcases readMembers_cases h with ⟨rfl, hs, u, rfl⟩ | ⟨u, m₁, v, hu, hm, hv⟩
    · refine ⟨⟨u, rfl⟩, ?_⟩
      have hblanks := skipBlanks_front s
      rw [hs] at hblanks
      refine hblanks.mono fun a c _ hc ha => ?_
      obtain ⟨w, rfl⟩ := eq_cons_of_head? hc
      have hlen := length_skipBlanks_le a
      rw [ha] at hlen
      refine ⟨hlen, fun n hn => ?_⟩
      cases n with
      | zero => omega
      | succ n => exact readMembers_close ha
    · obtain ⟨hclose, hrest⟩ := ih hv
      refine ⟨hclose, ?_⟩
      have hmember := (readMember_front hm).trans hrest
        (H := fun a c => ∃ b, readMember m a = .ok (m₁, b) ∧ c.length ≤ b.length ∧
          ∀ fuel, b.length < fuel + c.length → readMembers fuel false m₁ b = .ok (m', c))
        fun a b c _ _ ha hc => ⟨b, ha, hc⟩
      refine .afterStart hu hmember ?_
      rintro a w c ha ⟨b, hb, hcb, hrun⟩
      have hwa := startsMember_length_lt ha
      have hbw := (readMember_front hb).length_le
      refine ⟨by omega, fun n hn => ?_⟩
      cases n with
      | zero => omega
      | succ n =>
        rw [readMembers_member ha, hb]
        exact hrun n (by omega)

theorem readObject_front {s t : Bytes} {e : Entry} (h : readObject s = .ok (e, t)) :
    ∃ front, s = front ++ 125 :: t ∧ ∀ other, readObject (front ++ 125 :: other) = .ok (e, other) := by
  unfold readObject at h
  obtain ⟨⟨m, u⟩, hm, hu⟩ := bind_eq_ok.mp h
  obtain ⟨⟨v, rfl⟩, front, hs, hfront⟩ := readMembers_front hm
  cases he : m.entry with
  | error field => simp [he, throw, throwThe, MonadExceptOf.throw] at hu
  | ok entry =>
    simp only [he] at hu
    cases hu
    refine ⟨front, hs, fun other => ?_⟩
    have hrun := (hfront (125 :: other) rfl).2 ((front ++ 125 :: other).length + 1) (by omega)
    unfold readObject
    rw [hrun]
    simp [he, bind, Except.bind, pure, Except.pure]

end ShortLinks.Record
