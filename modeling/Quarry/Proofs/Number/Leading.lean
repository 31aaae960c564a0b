import Quarry.Proofs.Number.Written

namespace Quarry

namespace Text.Shape

variable {α : Type} {p : Char → Bool} {next : List Char → Option α} {s : List Char}

section

variable (a b : Shape)

@[simp]
theorem behind_one_cons (c : Char) :
    (one p).behind next (c :: s) = if p c then next s else none := rfl

@[simp]
theorem behind_run : (run p).behind next s = behindRun p next s := rfl

@[simp]
theorem behind_both : (both a b).behind next s = a.behind (b.behind next) s := rfl

@[simp]
theorem behind_either :
    (either a b).behind next s = (a.behind next s).or (b.behind next s) := rfl

@[simp]
theorem behind_optional : (optional a).behind next s = (a.behind next s).or (next s) := rfl

end

theorem behindRun_of_isSome (h : ∀ t, (next t).isSome) :
    behindRun p next s = next (s.dropWhile p) := by
  induction s with
  | nil => rfl
  | cons c s ih =>
    by_cases hc : p c
    · obtain ⟨a, ha⟩ := Option.isSome_iff_exists.mp (h (s.dropWhile p))
      rw [behindRun, if_pos hc, ih, List.dropWhile_cons_of_pos hc, ha, Option.some_or]
    · rw [behindRun, if_neg hc, List.dropWhile_cons_of_neg hc]

theorem behindRun_of_eq_none (h : ∀ c t, p c → next (c :: t) = none) :
    behindRun p next s = next (s.dropWhile p) := by
  induction s with
  | nil => rfl
  | cons c s ih =>
    by_cases hc : p c
    · rw [behindRun, if_pos hc, ih, h c s hc, Option.or_none, List.dropWhile_cons_of_pos hc]
    · rw [behindRun, if_neg hc, List.dropWhile_cons_of_neg hc]

theorem behind_runOfSome (h : ∀ t, (next t).isSome) :
    (runOfSome p).behind next s =
      if s.takeWhile p = [] then none else next (s.dropWhile p) := by
  cases s with
  | nil => rfl
  | cons c s =>
    by_cases hc : p c
    · rw [runOfSome, behind_both, behind_one_cons, if_pos hc, behind_run, behindRun_of_isSome h,
        List.takeWhile_cons_of_pos hc, List.dropWhile_cons_of_pos hc]
      rfl
    · rw [runOfSome, behind_both, behind_one_cons, if_neg hc, List.takeWhile_cons_of_neg hc,
        if_pos rfl]

end Text.Shape

namespace Number

open Text (Shape)
open Text.Shape (behind_one_cons behind_run behind_both behind_either behind_optional
  behindRun_of_isSome behindRun_of_eq_none behind_runOfSome)

variable {α : Type} {next : List Char → Option α} {s t u : List Char}

namespace Leading

theorem behind_sign (h : ∀ c t, isSign c → next (c :: t) = none) :
    sign.behind next s = next (splitSign s).2 := by
  cases s with
  | nil => rfl
  | cons c s =>
    by_cases hc : isSign c
    · have hn := h c s hc
      simp only [sign, behind_optional, behind_one_cons, if_pos hc, hn, Option.or_none]
      obtain rfl | rfl : c = '+' ∨ c = '-' := by simpa [isSign] using hc
      · rfl
      · rfl
    · have hc' : c ≠ '+' ∧ c ≠ '-' := by simpa [isSign] using hc
      simp [sign, hc, splitSign, hc']

theorem runOfSome_of_not_isDigit {c : Char} (hc : c.isDigit = false) :
    (Shape.runOfSome Char.isDigit).behind next (c :: t) = none := by
  simp [Shape.runOfSome, hc]

theorem behind_power : power.behind some s = some (splitPower s).2 := by
  have hsome : ∀ t : List Char, (some t).isSome := fun _ => rfl
  cases s with
  | nil => rfl
  | cons c s =>
    by_cases hc : isPowerLetter c
    · have hsign : ∀ d t, isSign d →
          (Shape.runOfSome Char.isDigit).behind some (d :: t) = none := by
        intro d t hd
        obtain rfl | rfl : d = '+' ∨ d = '-' := by simpa [isSign] using hd
        · exact runOfSome_of_not_isDigit rfl
        · exact runOfSome_of_not_isDigit rfl
      simp only [power, behind_optional, behind_both, behind_one_cons, if_pos hc, behind_sign hsign,
        behind_runOfSome hsome, splitPower]
      by_cases hds : (splitSign s).2.takeWhile Char.isDigit = []
      · simp [hds]
      · simp [hds]
    · simp [power, hc, splitPower]

theorem behind_fraction (h : ∀ t, (next t).isSome) :
    (Shape.optional (.both (.one isPoint) (.run Char.isDigit))).behind next s =
      next (splitFraction s).2 := by
  cases s with
  | nil => rfl
  | cons c s =>
    by_cases hc : isPoint c
    · obtain ⟨a, ha⟩ := Option.isSome_iff_exists.mp (h (s.dropWhile Char.isDigit))
      obtain rfl : c = '.' := by simpa [isPoint] using hc
      simp only [behind_optional, behind_both, behind_one_cons, if_pos hc, behind_run,
        behindRun_of_isSome h, splitFraction, ha, Option.some_or]
    · have hc' : c ≠ '.' := by simpa [isPoint] using hc
      simp [hc, splitFraction, hc']

theorem behind_mantissa (h : ∀ t, (next t).isSome) :
    mantissa.behind next s =
      if s.takeWhile Char.isDigit = [] ∧
        (splitFraction (s.dropWhile Char.isDigit)).1.getD [] = [] then none
      else next (splitFraction (s.dropWhile Char.isDigit)).2 := by
  have hfraction : (Shape.optional (.both (.one isPoint) (.run Char.isDigit))).behind next =
      fun t => next (splitFraction t).2 := funext fun _ => behind_fraction h
  rw [mantissa, behind_either, behind_both, hfraction, behind_runOfSome fun t => h _]
  by_cases hw : s.takeWhile Char.isDigit = []
  · have hs := List.takeWhile_append_dropWhile (p := Char.isDigit) (l := s)
    rw [hw, List.nil_append] at hs
    rw [if_pos hw, Option.none_or, hs]
    cases s with
    | nil => rfl
    | cons c s =>
      by_cases hc : isPoint c
      · obtain rfl : c = '.' := by simpa [isPoint] using hc
        simp only [behind_both, behind_one_cons, if_pos hc, behind_runOfSome h, splitFraction, hw,
          true_and, Option.getD_some]
      · have hc' : c ≠ '.' := by simpa [isPoint] using hc
        simp [hc, splitFraction, hc', hw]
  · obtain ⟨a, ha⟩ := Option.isSome_iff_exists.mp (h (splitFraction (s.dropWhile Char.isDigit)).2)
    simp [hw, ha]

theorem behind_mantissa_of_not {c : Char} (h : ∀ t, (next t).isSome) (hd : c.isDigit = false)
    (hp : c ≠ '.') : mantissa.behind next (c :: t) = none := by
  simp [behind_mantissa h, hd, splitFraction, hp]

theorem of_isSpace {c : Char} (hc : Text.isSpace c) :
    c.isDigit = false ∧ c ≠ '.' ∧ isSign c = false := by
  have h : c = ' ' ∨ c = '\t' ∨ c = '\n' ∨ c.val = 0x0C ∨ c = '\r' := by
    simpa [Text.isSpace, Text.isLineBlank, or_assoc] using hc
  obtain rfl | rfl | rfl | hv | rfl := h
  · decide
  · decide
  · decide
  · obtain rfl : c = '\x0c' := Char.ext hv
    decide
  · decide

theorem behind_shape : shape.behind some s =
    (splitNumeral (s.dropWhile Text.isSpace)).map Prod.snd := by
  have hpower : power.behind some = fun t => some (splitPower t).2 := funext fun _ => behind_power
  have hsign : ∀ c t, isSign c → (Shape.both mantissa power).behind some (c :: t) = none := by
    intro c t hc
    rw [behind_both, hpower]
    obtain rfl | rfl : c = '+' ∨ c = '-' := by simpa [isSign] using hc
    · exact behind_mantissa_of_not (fun _ => rfl) rfl (by decide)
    · exact behind_mantissa_of_not (fun _ => rfl) rfl (by decide)
  have hspace : ∀ c t, Text.isSpace c →
      (Shape.both sign (.both mantissa power)).behind some (c :: t) = none := by
    intro c t hc
    obtain ⟨hd, hp, hs⟩ := of_isSpace hc
    have hs' : c ≠ '+' ∧ c ≠ '-' := by simpa [isSign] using hs
    have hsplit : (splitSign (c :: t)).2 = c :: t := by simp [splitSign, hs']
    rw [behind_both, behind_sign hsign, hsplit, behind_both, hpower]
    exact behind_mantissa_of_not (fun _ => rfl) hd hp
  rw [shape, behind_both, behind_run, behindRun_of_eq_none hspace, behind_both, behind_sign hsign,
    behind_both, hpower, behind_mantissa fun _ => rfl]
  simp only [splitNumeral]
  split
  · rename_i h
    simp [h]
  · rename_i h
    simp only [Bool.and_eq_true, List.isEmpty_iff, h]
    rfl

end Leading

/-- The longest numeral at the front of a text, behind its spaces. -/
structure Leads (s : List Char) (n : Numeral) (u : List Char) : Prop where
  front : u <+: s.dropWhile Text.isSpace
  writes : Writes n u
  longest : ∀ m w, w <+: s.dropWhile Text.isSpace → Writes m w → w.length ≤ u.length

theorem splitNumeral_of_writes {n : Numeral} (h : Writes n u) :
    splitNumeral u = some (n, []) := by
  obtain ⟨m, r, hm, hr, hn⟩ := splitNumeral_written (t := []) h
  rw [List.append_nil] at hm
  obtain rfl : r = [] := List.length_eq_zero_iff.mp (Nat.le_zero.mp hr)
  rw [hm, hn rfl]

theorem Leads.of_splitNumeral {n : Numeral}
    (h : splitNumeral (s.dropWhile Text.isSpace) = some (n, t)) :
    ∃ u, Leads s n u ∧ s.dropWhile Text.isSpace = u ++ t := by
  obtain ⟨u, hw, hs⟩ := splitNumeral_sound h
  refine ⟨u, ⟨⟨t, hs.symm⟩, hw, ?_⟩, hs⟩
  rintro m w ⟨v, hv⟩ hm
  obtain ⟨n', r, hr, hlen, -⟩ := splitNumeral_written (t := v) hm
  rw [hv, h] at hr
  cases hr
  have hl : w.length + v.length = u.length + t.length := by
    rw [← List.length_append, ← List.length_append, hv, hs]
  omega

theorem Leads.splitNumeral {n : Numeral} (h : Leads s n u) :
    ∃ t, s.dropWhile Text.isSpace = u ++ t ∧
      splitNumeral (s.dropWhile Text.isSpace) = some (n, t) := by
  obtain ⟨t, ht⟩ := h.front
  obtain ⟨m, r, hm, hr, -⟩ := splitNumeral_written (t := t) h.writes
  rw [ht] at hm
  obtain ⟨v, hv, hs⟩ := Leads.of_splitNumeral hm
  have hle := h.longest m v hv.front hv.writes
  rw [← ht] at hs
  have hl : u.length = v.length := by
    have := congrArg List.length hs
    simp only [List.length_append] at this
    omega
  obtain ⟨rfl, rfl⟩ := List.append_inj hs hl
  have huniq := splitNumeral_of_writes h.writes
  rw [splitNumeral_of_writes hv.writes] at huniq
  cases huniq
  exact ⟨t, ht.symm, hm⟩

theorem leads_or_not (s : List Char) : (∃ n u, Leads s n u) ∨
    Number.splitNumeral (s.dropWhile Text.isSpace) = none ∧
      ∀ m w, w <+: s.dropWhile Text.isSpace → ¬ Writes m w := by
  cases h : Number.splitNumeral (s.dropWhile Text.isSpace) with
  | some r =>
    obtain ⟨u, hu, -⟩ := Leads.of_splitNumeral h
    exact .inl ⟨_, u, hu⟩
  | none =>
    refine .inr ⟨rfl, ?_⟩
    rintro m w ⟨v, hv⟩ hm
    obtain ⟨n, r, hr, -, -⟩ := splitNumeral_written (t := v) hm
    rw [hv, h] at hr
    cases hr

/-! ### The text that is cut out -/

theorem isBlank_of_isDigit {c : Char} (hc : c.isDigit) : Text.isBlank c = false := by
  obtain ⟨h1, h2⟩ : 48 ≤ c.toNat ∧ c.toNat ≤ 57 := by
    simp only [Char.isDigit, Bool.and_eq_true, decide_eq_true_eq, ge_iff_le,
      UInt32.le_iff_toNat_le] at hc
    exact hc
  simp only [Text.isBlank, Bool.or_eq_false_iff, Bool.and_eq_false_iff, decide_eq_false_iff_not]
  omega

theorem WritesSign.isBlank {b : Bool} (h : WritesSign b u) : ∀ c ∈ u, Text.isBlank c = false := by
  cases h with
  | absent => simp
  | plus | minus => exact List.forall_mem_singleton.mpr rfl

theorem WritesFraction.isBlank {f : Option (List Char)} (h : WritesFraction f u) :
    ∀ c ∈ u, Text.isBlank c = false := by
  cases h with
  | absent => simp
  | digits hd => exact List.forall_mem_cons.mpr ⟨rfl, fun c hc => isBlank_of_isDigit (hd c hc)⟩

theorem WritesPower.isBlank {p : Option (Bool × List Char)} (h : WritesPower p u) :
    ∀ c ∈ u, Text.isBlank c = false := by
  cases h with
  | absent => simp
  | digits hc hs _ hd =>
    refine List.forall_mem_cons.mpr ⟨?_, List.forall_mem_append.mpr ⟨hs.isBlank, ?_⟩⟩
    · obtain rfl | rfl := hc <;> rfl
    · exact fun c hc => isBlank_of_isDigit (hd c hc)

theorem Writes.isBlank {n : Numeral} (h : Writes n u) : ∀ c ∈ u, Text.isBlank c = false := by
  obtain ⟨hs, hw, hf, hp, -⟩ := h
  simp only [List.forall_mem_append]
  exact ⟨hs.isBlank, fun c hc => isBlank_of_isDigit (hw c hc), hf.isBlank, hp.isBlank⟩

theorem dropWhile_of_forall_not {p : Char → Bool} (h : ∀ c ∈ s, p c = false) :
    s.dropWhile p = s := by
  cases s with
  | nil => rfl
  | cons c s => exact List.dropWhile_cons_of_neg (by simp [h c List.mem_cons_self])

theorem trimBoth_append {p : Char → Bool} (hs : ∀ c ∈ s, p c) (hu : ∀ c ∈ u, p c = false) :
    Text.trimBoth p (s ++ u) = u := by
  have hr : ∀ c ∈ u.reverse, p c = false := fun c hc => hu c (List.mem_reverse.mp hc)
  rw [Text.trimBoth, List.dropWhile_append_of_pos hs, dropWhile_of_forall_not hu,
    dropWhile_of_forall_not hr, List.reverse_reverse]

theorem leading?_of_leads {text : String} {n : Numeral} (h : Leads text.toList n u) :
    leading? text = some (String.ofList u) := by
  obtain ⟨t, ht, hsplit⟩ := h.splitNumeral
  have hs := List.takeWhile_append_dropWhile (p := Text.isSpace) (l := text.toList)
  rw [ht, ← List.append_assoc] at hs
  have hcut : text.toList.take (text.toList.length - t.length) =
      text.toList.takeWhile Text.isSpace ++ u := by
    have hlen := congrArg List.length hs
    rw [List.length_append] at hlen
    have hfront := (List.prefix_iff_eq_take.mp ⟨t, hs⟩).symm
    rwa [show (text.toList.takeWhile Text.isSpace ++ u).length =
      text.toList.length - t.length by omega] at hfront
  have hblank : ∀ c ∈ text.toList.takeWhile Text.isSpace, Text.isBlank c := fun c hc =>
    Text.isBlank_of_isSpace (List.mem_takeWhile_imp hc)
  simp only [leading?, Shape.fit?, Leading.behind_shape, hsplit, Option.map_some, hcut,
    trimBoth_append hblank h.writes.isBlank]

theorem leading?_eq_none {text : String}
    (h : Number.splitNumeral (text.toList.dropWhile Text.isSpace) = none) :
    leading? text = none := by
  simp only [leading?, Shape.fit?, Leading.behind_shape, h, Option.map_none]

theorem Writes.leads {n : Numeral} (h : Writes n u) (hs : s.dropWhile Text.isSpace = u) :
    Leads s n u :=
  ⟨hs ▸ List.prefix_refl _, h, fun _ _ hw _ => hs ▸ hw.length_le⟩

theorem Writes.dropWhile_isSpace {n : Numeral} (h : Writes n u) :
    u.dropWhile Text.isSpace = u :=
  dropWhile_of_forall_not fun c hc => by
    by_contra hs
    have hb := Text.isBlank_of_isSpace (Bool.of_not_eq_false hs)
    rw [h.isBlank c hc] at hb
    cases hb

theorem readFloat?_of_writes {n : Numeral} (h : Writes n u) :
    readFloat? (String.ofList u) = some n.toFloat := by
  rw [readFloat?, String.toList_ofList, splitNumeral_of_writes h]

/-- A numeral that is read as an integer: digits alone, and not too many. -/
def Numeral.IsPlain (n : Numeral) : Prop :=
  n.fraction = none ∧ n.power = none ∧ n.whole.length ≤ exactDigits

def Numeral.plain (n : Numeral) : Int :=
  withSign n.negative (digitsValue n.whole)

theorem readInteger?_of_isPlain {n : Numeral} (h : Writes n u) (hn : n.IsPlain) :
    readInteger? u = some n.plain := by
  obtain ⟨b, w, f, p⟩ := n
  obtain ⟨rfl, rfl, hlen⟩ := hn
  obtain @⟨sg, fs, ps, hs, hw, hf, hp, hne⟩ := h
  cases hf
  cases hp
  have hempty : w.isEmpty = false := List.isEmpty_eq_false_iff.mpr
    (hne.resolve_right fun h => h rfl)
  have hsign := splitSign_of_written (t := []) hs hw .absent hne
  have hall : w.all Char.isDigit := List.all_eq_true.mpr hw
  rw [List.append_nil, List.append_nil] at hsign
  simp only [List.append_nil, readInteger?, hsign, hall, hempty, hlen, Numeral.plain]
  rfl

theorem isPlain_of_readInteger? {n : Numeral} {k : Int} (h : Writes n u)
    (hk : readInteger? u = some k) : n.IsPlain := by
  rcases hu : splitSign u with ⟨b, ds⟩
  obtain ⟨sg, hs, rfl⟩ := splitSign_sound hu
  simp only [readInteger?, hu, Option.ite_none_right_eq_some, Bool.and_eq_true,
    Bool.not_eq_true', List.isEmpty_eq_false_iff, decide_eq_true_eq, List.all_eq_true] at hk
  obtain ⟨⟨⟨hne, hd⟩, hlen⟩, -⟩ := hk
  have hw : Writes ⟨b, ds, none, none⟩ (sg ++ (ds ++ ([] ++ []))) :=
    .intro hs hd .absent .absent (.inl hne)
  rw [List.append_nil, List.append_nil] at hw
  have huniq := splitNumeral_of_writes h
  rw [splitNumeral_of_writes hw] at huniq
  cases huniq
  exact ⟨rfl, rfl, hlen⟩

end Number

end Quarry
