import JvmDeps.Proofs.Bytes.Reading
import Mathlib.Data.List.Infix

set_option autoImplicit false

/-! # What a parser accepts

`Parser.Reads` says what a parser does on a written record. The two properties here go the other
way, from a parser that succeeded to the bytes it was given:

* `p.ReadsOnly row P`: whatever `p` gives has `P`, and stood at the front of the input in its
  written form `row`;
* `p.Sequential`: `p` has used the bytes in front up to some point. It uses the same bytes whatever
  comes after them, and on fewer of them it runs short (`RunsShort`) and does nothing else. And it
  never comes to the end of a depth.

Both pass from parts to tables (`ReadsOnly.counted`, `Sequential.counted`), and the second to
sequences of parts (`Sequential.bind`).
-/

namespace JvmDeps

/-! ## Written numbers -/

theorem digits_div (m : Nat) (x : UInt8) : (m * 256 + x.toNat) / 256 = m := by
  have := x.toNat_lt
  omega

theorem digits_mod (m : Nat) (x : UInt8) : (m * 256 + x.toNat) % 256 = x.toNat := by
  have := x.toNat_lt
  omega

/-- Two bytes are the written form of their number. -/
theorem bytes2_ofNat (a b : UInt8) :
    bytes2 (UInt16.ofNat (a.toNat * 256 + b.toNat)) = [a, b] := by
  have ha := a.toNat_lt
  have hb := b.toNat_lt
  have hn : (UInt16.ofNat (a.toNat * 256 + b.toNat)).toNat = a.toNat * 256 + b.toNat :=
    UInt16.toNat_ofNat_of_lt' (by simp only [UInt16.size]; omega)
  rw [bytes2, hn, digits_div, digits_mod, UInt8.ofNat_toNat, UInt8.ofNat_toNat]

/-- Four bytes are the written form of their number. -/
theorem bytes4_ofNat (a b c d : UInt8) :
    bytes4 (UInt32.ofNat (((a.toNat * 256 + b.toNat) * 256 + c.toNat) * 256 + d.toNat))
      = [a, b, c, d] := by
  have ha := a.toNat_lt
  have hb := b.toNat_lt
  have hc := c.toNat_lt
  have hd := d.toNat_lt
  have hn : (UInt32.ofNat (((a.toNat * 256 + b.toNat) * 256 + c.toNat) * 256 + d.toNat)).toNat
      = ((a.toNat * 256 + b.toNat) * 256 + c.toNat) * 256 + d.toNat :=
    UInt32.toNat_ofNat_of_lt' (by simp only [UInt32.size]; omega)
  simp only [bytes4, hn, digits_div, digits_mod, UInt8.ofNat_toNat]

namespace Parser

variable {ε α β : Type}

/-! ## Successes taken apart -/

theorem bind_apply_eq_ok_iff {p : Parser ε α} {f : α → Parser ε β} {s rest : Bytes} {b : β} :
    (p >>= f) s = .ok (b, rest) ↔ ∃ a mid, p s = .ok (a, mid) ∧ f a mid = .ok (b, rest) := by
  simp only [bind]
  cases p s with
  | error e => simp
  | ok r => simp [Prod.ext_iff]

/-- A sequence stops in its first part, or in the second behind it. -/
theorem bind_apply_eq_error_iff {p : Parser ε α} {f : α → Parser ε β} {s : Bytes} {e : Stop ε} :
    (p >>= f) s = .error e ↔
      p s = .error e ∨ ∃ a mid, p s = .ok (a, mid) ∧ f a mid = .error e := by
  simp only [bind]
  cases p s with
  | error e' => simp
  | ok r => simp [Prod.ext_iff]

theorem pure_apply_eq_ok_iff {a b : α} {s rest : Bytes} :
    (pure a : Parser ε α) s = .ok (b, rest) ↔ a = b ∧ s = rest := by
  simp [pure]

theorem ofExcept_apply_eq_ok_iff {x : Except ε α} {a : α} {s rest : Bytes} :
    ofExcept x s = .ok (a, rest) ↔ x = .ok a ∧ s = rest := by
  cases x with
  | error e => simp [ofExcept]
  | ok b => simp [ofExcept]

/-! ## Parsers that read only written forms -/

/-- Whatever the parser gives has the property, and was read off the front in its written form. -/
def ReadsOnly (p : Parser ε α) (row : α → Bytes) (P : α → Prop) : Prop :=
  ∀ ⦃s a rest⦄, p s = .ok (a, rest) → s = row a ++ rest ∧ P a

theorem eq_of_u1 {s rest : Bytes} {b : UInt8}
    (h : (u1 s : Except (Stop ε) (UInt8 × Bytes)) = .ok (b, rest)) : s = b :: rest := by
  cases s with
  | nil => simp [u1] at h
  | cons a s =>
      simp only [u1, Except.ok.injEq, Prod.mk.injEq] at h
      rw [h.1, h.2]

theorem eq_of_u2 {s rest : Bytes} {n : UInt16}
    (h : (u2 s : Except (Stop ε) (UInt16 × Bytes)) = .ok (n, rest)) : s = bytes2 n ++ rest := by
  unfold u2 at h
  split at h
  · simp only [Except.ok.injEq, Prod.mk.injEq] at h
    obtain ⟨rfl, rfl⟩ := h
    rw [bytes2_ofNat]
    rfl
  · cases h

theorem eq_of_u4 {s rest : Bytes} {n : UInt32}
    (h : (u4 s : Except (Stop ε) (UInt32 × Bytes)) = .ok (n, rest)) : s = bytes4 n ++ rest := by
  unfold u4 at h
  split at h
  · simp only [Except.ok.injEq, Prod.mk.injEq] at h
    obtain ⟨rfl, rfl⟩ := h
    rw [bytes4_ofNat]
    rfl
  · cases h

theorem eq_of_take {n : Nat} {s front rest : Bytes}
    (h : (take n s : Except (Stop ε) (Bytes × Bytes)) = .ok (front, rest)) :
    s = front ++ rest ∧ front.length = n := by
  simp only [take] at h
  split at h
  · rename_i hlength
    simp only [Except.ok.injEq, Prod.mk.injEq] at h
    obtain ⟨rfl, rfl⟩ := h
    exact ⟨(List.take_append_drop n s).symm, hlength⟩
  · cases h

theorem times_zero_apply (p : Parser ε α) (s : Bytes) : times 0 p s = .ok ([], s) := rfl

/-- Rows stop with one of them, behind those that were read. -/
theorem times_apply_eq_error_iff {p : Parser ε α} {n : Nat} {s : Bytes} {e : Stop ε} :
    times n p s = .error e ↔
      ∃ k rows mid, k < n ∧ times k p s = .ok (rows, mid) ∧ p mid = .error e := by
  induction n generalizing s with
  | zero => simp [times_zero_apply]
  | succ n ih =>
      simp only [times_succ, bind_apply_eq_error_iff, ih]
      constructor
      · rintro (hfirst | ⟨a, mid, ha, ⟨k, rows, mid', hk, hrows, hstop⟩ | ⟨rows, mid', -, hpure⟩⟩)
        · exact ⟨0, [], s, Nat.succ_pos n, rfl, hfirst⟩
        · refine ⟨k + 1, a :: rows, mid', Nat.succ_lt_succ hk, ?_, hstop⟩
          rw [times_succ, bind_apply_of_ok ha, bind_apply_of_ok hrows, pure_apply]
        · cases hpure
      · rintro ⟨k, rows, mid, hk, hrows, hstop⟩
        cases k with
        | zero =>
            simp only [times_zero_apply, Except.ok.injEq, Prod.mk.injEq] at hrows
            exact Or.inl (hrows.2 ▸ hstop)
        | succ k =>
            simp only [times_succ, bind_apply_eq_ok_iff, pure_apply_eq_ok_iff] at hrows
            obtain ⟨a, mid', ha, more, last, hmore, -, rfl⟩ := hrows
            exact Or.inr
              ⟨a, mid', ha, Or.inl ⟨k, more, last, Nat.lt_of_succ_lt_succ hk, hmore, hstop⟩⟩

/-- Rows are read one after the other, as many as wanted. -/
theorem ReadsOnly.times {p : Parser ε α} {row : α → Bytes} {P : α → Prop} (h : p.ReadsOnly row P)
    (n : Nat) :
    (times n p).ReadsOnly (List.flatMap row) fun rows => rows.length = n ∧ ∀ a ∈ rows, P a := by
  induction n with
  | zero =>
      intro s rows rest hs
      simp only [times_zero_apply, Except.ok.injEq, Prod.mk.injEq] at hs
      obtain ⟨rfl, rfl⟩ := hs
      exact ⟨rfl, rfl, by simp⟩
  | succ n ih =>
      intro s rows rest hs
      rw [times_succ] at hs
      simp only [bind_apply_eq_ok_iff, pure_apply_eq_ok_iff] at hs
      obtain ⟨a, mid, ha, more, last, hmore, rfl, rfl⟩ := hs
      obtain ⟨rfl, hP⟩ := h ha
      obtain ⟨rfl, rfl, hall⟩ := ih hmore
      exact ⟨by simp, by simp, List.forall_mem_cons.mpr ⟨hP, hall⟩⟩

/-- **A table that was read is written with its length in front.** -/
theorem ReadsOnly.counted {p : Parser ε α} {row : α → Bytes} {P : α → Prop}
    (h : p.ReadsOnly row P) :
    (counted p).ReadsOnly (ClassFile.tableBytes row)
      fun rows => rows.length < 65536 ∧ ∀ a ∈ rows, P a := by
  intro s rows rest hs
  rw [Parser.counted, bind_apply_eq_ok_iff] at hs
  obtain ⟨n, mid, hn, hrows⟩ := hs
  obtain ⟨rfl, hlength, hall⟩ := h.times n.toNat hrows
  refine ⟨?_, hlength ▸ n.toNat_lt, hall⟩
  rw [eq_of_u2 hn, ClassFile.tableBytes, hlength, UInt16.ofNat_toNat, List.append_assoc]

/-! ## Parsers that go forward only -/

/-- The parser needs more bytes than are left. -/
def RunsShort (p : Parser ε α) (s : Bytes) : Prop :=
  ∃ need left, p s = .error (.short need left) ∧ left < need ∧ left ≤ s.length

/-- The parser goes through the bytes once. Where it succeeds, it has used the bytes up to some
point: it uses the same bytes whatever comes after them, and runs short on fewer of them. It does
not recur, so that it cannot do so too deep. -/
structure Sequential (p : Parser ε α) : Prop where
  forward : ∀ ⦃s a rest⦄, p s = .ok (a, rest) → ∃ used, s = used ++ rest ∧ p.Reads used a ∧
    ∀ cut, cut <+: used → cut ≠ used → p.RunsShort cut
  flat : ∀ s, p s ≠ .error .tooDeep

theorem RunsShort.bind {p : Parser ε α} {s : Bytes} (h : p.RunsShort s) (f : α → Parser ε β) :
    (p >>= f).RunsShort s := by
  obtain ⟨need, left, hp, hneed, hleft⟩ := h
  refine ⟨need, left, ?_, hneed, hleft⟩
  simp only [Bind.bind, hp]

/-- A beginning of two parts ends in the first, or in the second behind the whole first. -/
theorem prefix_append_cases {cut s t : Bytes} (h : cut <+: s ++ t) (hne : cut ≠ s ++ t) :
    (cut <+: s ∧ cut ≠ s) ∨ ∃ cut', cut = s ++ cut' ∧ cut' <+: t ∧ cut' ≠ t := by
  by_cases hlength : cut.length < s.length
  · left
    refine ⟨List.prefix_of_prefix_length_le h (List.prefix_append s t) (Nat.le_of_lt hlength), ?_⟩
    rintro rfl
    exact Nat.lt_irrefl _ hlength
  · right
    have hs : s <+: cut :=
      List.prefix_of_prefix_length_le (List.prefix_append s t) h (Nat.le_of_not_lt hlength)
    obtain ⟨cut', rfl⟩ := hs
    refine ⟨cut', rfl, (List.prefix_append_right_inj s).mp h, ?_⟩
    rintro rfl
    exact hne rfl

/-- Parts that go forward only make a sequence that does. -/
theorem Sequential.bind {p : Parser ε α} {f : α → Parser ε β} (hp : p.Sequential)
    (hf : ∀ a, (f a).Sequential) : (p >>= f).Sequential where
  forward := by
    intro s b rest hs
    obtain ⟨a, mid, ha, hb⟩ := bind_apply_eq_ok_iff.mp hs
    obtain ⟨front, rfl, hfront, hcutFront⟩ := hp.forward ha
    obtain ⟨back, rfl, hback, hcutBack⟩ := (hf a).forward hb
    refine ⟨front ++ back, (List.append_assoc ..).symm, ?_, ?_⟩
    · intro more
      rw [List.append_assoc, hfront.bind_apply, hback]
    · intro cut hcut hne
      rcases prefix_append_cases hcut hne with ⟨hcut, hne⟩ | ⟨cut', rfl, hcut', hne'⟩
      · exact (hcutFront cut hcut hne).bind f
      · -- the first part is there as a whole, and the second runs short behind it
        obtain ⟨need, left, hshort, hneed, hleft⟩ := hcutBack cut' hcut' hne'
        refine ⟨need, left, ?_, hneed, ?_⟩
        · rw [hfront.bind_apply, hshort]
        · rw [List.length_append]
          omega
  flat := by
    intro s hs
    rcases bind_apply_eq_error_iff.mp hs with hfirst | ⟨a, mid, -, hsecond⟩
    · exact hp.flat s hfirst
    · exact (hf a).flat mid hsecond

/-- A parser that takes nothing goes forward only. -/
theorem sequential_of_reads_nil {p : Parser ε α}
    (h : ∀ s a rest, p s = .ok (a, rest) → s = rest ∧ p.Reads [] a)
    (hflat : ∀ s, p s ≠ .error .tooDeep) : p.Sequential where
  forward := by
    intro s a rest hs
    obtain ⟨rfl, hreads⟩ := h s a rest hs
    refine ⟨[], rfl, hreads, ?_⟩
    intro cut hcut hne
    exact absurd (List.prefix_nil.mp hcut) hne
  flat := hflat

theorem sequential_pure (a : α) : (pure a : Parser ε α).Sequential := by
  apply sequential_of_reads_nil
  · intro s b rest hs
    obtain ⟨rfl, rfl⟩ := pure_apply_eq_ok_iff.mp hs
    exact ⟨rfl, fun _ => rfl⟩
  · intro s hs
    cases hs

theorem sequential_ofExcept (x : Except ε α) : (ofExcept x).Sequential := by
  apply sequential_of_reads_nil
  · intro s a rest hs
    obtain ⟨rfl, rfl⟩ := ofExcept_apply_eq_ok_iff.mp hs
    exact ⟨rfl, fun _ => rfl⟩
  · intro s hs
    cases x <;> cases hs

theorem sequential_refuse (cause : ε) : (refuse cause : Parser ε α).Sequential := by
  apply sequential_of_reads_nil
  · intro s a rest hs
    cases hs
  · intro s hs
    cases hs

/-- A parser that takes a fixed number of bytes, whatever they are, goes forward only. -/
theorem sequential_of_size {p : Parser ε α} (size : Nat)
    (hread : ∀ used : Bytes, used.length = size → ∃ a, p.Reads used a)
    (hshort : ∀ s, s.length < size → p s = .error (.short size s.length)) : p.Sequential := by
  -- either there are too few bytes, or those in front are taken
  have hcases : ∀ s, p s = .error (.short size s.length) ∨ ∃ a used rest, s = used ++ rest ∧
      used.length = size ∧ p.Reads used a ∧ p s = .ok (a, rest) := by
    intro s
    rcases Nat.lt_or_ge s.length size with hless | hle
    · exact Or.inl (hshort s hless)
    · have hsize : (s.take size).length = size := List.length_take_of_le hle
      obtain ⟨a, hreads⟩ := hread _ hsize
      have hs : s = s.take size ++ s.drop size := (List.take_append_drop size s).symm
      exact Or.inr ⟨a, _, _, hs, hsize, hreads, (congrArg p hs).trans (hreads _)⟩
  refine ⟨fun s a rest hs => ?_, fun s hs => ?_⟩
  · rcases hcases s with herror | ⟨a', used, rest', rfl, hsize, hreads, hok⟩
    · rw [herror] at hs
      cases hs
    · obtain ⟨rfl, rfl⟩ := Prod.mk.inj (Except.ok.inj (hs.symm.trans hok))
      refine ⟨used, rfl, hreads, ?_⟩
      intro cut hcut hne
      have hlength : cut.length < size := by
        have hle := hcut.length_le
        have hlt : cut.length ≠ used.length := fun heq => hne (hcut.eq_of_length heq)
        omega
      exact ⟨size, cut.length, hshort cut hlength, hlength, Nat.le_refl _⟩
  · rcases hcases s with herror | ⟨a, used, rest, -, -, -, hok⟩
    · rw [herror] at hs
      cases hs
    · rw [hok] at hs
      cases hs

theorem sequential_u1 : (u1 : Parser ε UInt8).Sequential := by
  apply sequential_of_size 1
  · intro used hsize
    obtain ⟨b, rfl⟩ := List.length_eq_one_iff.mp hsize
    exact ⟨b, reads_u1 b⟩
  · intro s hs
    obtain rfl : s = [] := List.length_eq_zero_iff.mp (by omega)
    rfl

theorem sequential_u2 : (u2 : Parser ε UInt16).Sequential := by
  apply sequential_of_size 2
  · intro used hsize
    obtain ⟨a, b, rfl⟩ := List.length_eq_two.mp hsize
    exact ⟨_, fun _ => rfl⟩
  · intro s hs
    match s with
    | [] => rfl
    | [_] => rfl
    | _ :: _ :: s =>
        simp only [List.length_cons] at hs
        omega

theorem sequential_u4 : (u4 : Parser ε UInt32).Sequential := by
  apply sequential_of_size 4
  · intro used hsize
    match used with
    | [_, _, _, _] => exact ⟨_, fun _ => rfl⟩
  · intro s hs
    match s with
    | [] => rfl
    | [_] => rfl
    | [_, _] => rfl
    | [_, _, _] => rfl
    | _ :: _ :: _ :: _ :: s =>
        simp only [List.length_cons] at hs
        omega

theorem sequential_take (n : Nat) : (take n : Parser ε Bytes).Sequential := by
  apply sequential_of_size n
  · exact fun used hsize => ⟨used, reads_take hsize⟩
  · intro s hs
    have hfront : ¬ (s.take n).length = n := by
      rw [List.length_take]
      omega
    simp only [take, if_neg hfront]

theorem Sequential.times {p : Parser ε α} (h : p.Sequential) (n : Nat) :
    (times n p).Sequential := by
  induction n with
  | zero => exact sequential_pure []
  | succ n ih =>
      rw [times_succ]
      exact h.bind fun a => ih.bind fun l => sequential_pure (a :: l)

/-- **A table goes forward only if its rows do.** -/
theorem Sequential.counted {p : Parser ε α} (h : p.Sequential) : (counted p).Sequential :=
  sequential_u2.bind fun n => h.times n.toNat

end Parser

end JvmDeps
