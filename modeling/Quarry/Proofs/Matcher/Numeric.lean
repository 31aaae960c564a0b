import Quarry.Proofs.Matcher.Operation
import Quarry.Proofs.Number.Truncation
import Quarry.Proofs.Value.Numbers

namespace Quarry

open Number (Leads Writes Numeral Trailing IsDouble IsEvenDouble IsNearest leading? readFloat?
  readInteger? overflow towardZero)

namespace Matcher

def numeric : NumberKind → Matcher → Matcher
  | .int => asInt
  | .float => asFloat

variable {aim : NumberKind} {m : Matcher} {n v w : Value} {e : Option Extractor}

theorem eval_numeric (aim : NumberKind) (h : m.eval n e = .ok v) :
    (m.numeric aim).eval n e = v.toNumber aim := by
  cases aim <;> simp [numeric, h]

/-- A projection keeps the shape of a value and settles at once, and the first part of the value
that fails decides whether an operand is refused. -/
theorem numeric_projects (aim : NumberKind) (h : m.eval n e = .ok v) :
    (∀ w, (m.numeric aim).eval n e = .ok w →
      v.Projected aim w ∧ ((m.numeric aim).numeric aim).eval n e = .ok w) ∧
    ((∃ f, (m.numeric aim).eval n e = .error (.operation f)) ↔
      ∃ xs x ys, v.atoms = xs ++ x :: ys ∧ (∀ y ∈ xs, ∃ w, y.toNumber aim = .ok w) ∧
        (∃ φ, x.toNumber aim = .error φ) ∧ x.isConvertible = false) := by
  rw [eval_numeric aim h]
  refine ⟨fun w hw => ?_, Value.exists_toNumber_eq_operation_iff⟩
  have hp := Value.projected_of_toNumber v w hw
  exact ⟨hp, by rw [eval_numeric aim ((eval_numeric aim h).trans hw), hp.toNumber_eq]⟩

def mixed : Value := .tuple [.bool true, .none, .list [.int 3]]

def unfit : Value := .list [.int 1, .dict []]

theorem numeric_projects_mixed :
    mixed.Projected .int (.list [.int 1, .none, .list [.int 3]]) ∧
    ∃ f, ((constant unfit).numeric .int).eval .none none = .error (.operation f) := by
  obtain ⟨hok, -⟩ := numeric_projects .int (eval_constant mixed .none none)
  obtain ⟨-, herr⟩ := numeric_projects .int (eval_constant unfit .none none)
  refine ⟨(hok _ (eval_numeric .int (eval_constant _ _ _))).1, herr.mpr ?_⟩
  refine ⟨[.int 1], .dict [], [], rfl, ?_, ⟨_, rfl⟩, rfl⟩
  intro y hy
  obtain rfl := List.mem_singleton.mp hy
  exact ⟨_, rfl⟩

end Matcher

/-! ### Texts -/

namespace Value

variable {aim : NumberKind} {s t : String} {d : Numeral} {u : List Char}

theorem ofText_congr (h : leading? s = leading? t) : ofText aim s = ofText aim t := by
  unfold ofText
  rw [h]

theorem ofText_of_leads (h : Leads s.toList d u) :
    ofText aim s = ofText aim (String.ofList u) := by
  apply ofText_congr
  have hu : Leads (String.ofList u).toList d u := by
    rw [String.toList_ofList]
    exact h.writes.leads h.writes.dropWhile_isSpace
  rw [Number.leading?_of_leads h, Number.leading?_of_leads hu]

theorem ofText_float_of_leads (h : Leads s.toList d u) :
    ofText .float s = .ok (.float d.toFloat) := by
  unfold ofText
  rw [Number.leading?_of_leads h]
  simp only [readFloat, Number.readFloat?_of_writes h.writes]
  rfl

theorem ofText_int_of_isPlain (h : Leads s.toList d u) (hd : d.IsPlain) :
    ofText .int s = .ok (.int d.plain) := by
  unfold ofText
  rw [Number.leading?_of_leads h]
  simp only [String.toList_ofList, Number.readInteger?_of_isPlain h.writes hd]

theorem ofText_int_of_not_isPlain (h : Leads s.toList d u) (hd : ¬ d.IsPlain) :
    ofText .int s = intOf (Number.truncate d.toFloat) := by
  have hnone : readInteger? u = Option.none := by
    cases hk : readInteger? u with
    | none => rfl
    | some k => exact absurd (Number.isPlain_of_readInteger? h.writes hk) hd
  unfold ofText
  rw [Number.leading?_of_leads h]
  simp only [String.toList_ofList, hnone, readFloat, Number.readFloat?_of_writes h.writes]
  rfl

theorem ofText_of_not_leads (h : ∀ d u, ¬ Leads s.toList d u) :
    leading? s = Option.none ∧ ofText .int s = .ok (.int 0) ∧ ofText .float s = .ok (.float 0) := by
  have hnone : leading? s = Option.none := by
    obtain ⟨d, u, hd⟩ | ⟨hs, -⟩ := Number.leads_or_not s.toList
    · exact absurd hd (h d u)
    · exact Number.leading?_eq_none hs
  unfold ofText
  rw [hnone]
  exact ⟨rfl, rfl, rfl⟩

theorem exists_readFloat? (h : leading? s = some t) : ∃ x, readFloat? t = some x := by
  by_cases hs : ∃ d u, Leads s.toList d u
  · obtain ⟨d, u, hd⟩ := hs
    rw [Number.leading?_of_leads hd] at h
    cases h
    exact ⟨_, Number.readFloat?_of_writes hd.writes⟩
  · rw [(ofText_of_not_leads fun d u hd => hs ⟨d, u, hd⟩).1] at h
    cases h

theorem ofText_int_nearest (h : Leads s.toList d u) (hd : ¬ d.IsPlain)
    (hlt : |d.value| < overflow) :
    ∃ y, IsNearest d.value y ∧ ofText .int s = .ok (.int (towardZero y)) := by
  obtain ⟨y, hy, ht⟩ := d.truncate_toFloat.1 hlt
  exact ⟨y, hy, by rw [ofText_int_of_not_isPlain h hd, ht]; rfl⟩

theorem ofText_int_infinite (h : Leads s.toList d u) (hd : ¬ d.IsPlain)
    (hge : overflow ≤ |d.value|) :
    ofText .int s = .error .infinite := by
  rw [ofText_int_of_not_isPlain h hd, d.truncate_toFloat.2 hge]
  rfl

theorem ofText_int_exact (h : Leads s.toList d u) (hd : d.IsPlain ∨ IsDouble d.value) :
    ofText .int s = .ok (.int (towardZero d.value)) := by
  by_cases hp : d.IsPlain
  · rw [ofText_int_of_isPlain h hp, Numeral.value_of_integer hp.1 hp.2.1, Number.towardZero_intCast]
  · have hx := hd.resolve_left hp
    obtain ⟨y, hy, hv⟩ := ofText_int_nearest h hp hx.abs_lt_overflow
    rwa [hy.eq_of_isDouble hx] at hv

def IsTextual (v : Value) : Prop := ∀ x ∈ v.atoms, x = .none ∨ ∃ s o, x = .str s o

theorem toNumber_text_safe (s : String) :
    (∃ w, ofText .float s = .ok w) ∧ ∀ φ, ofText .int s = .error φ → φ = .infinite := by
  by_cases hs : ∃ d u, Leads s.toList d u
  · obtain ⟨d, u, hd⟩ := hs
    refine ⟨⟨_, ofText_float_of_leads hd⟩, fun φ h => ?_⟩
    by_cases hp : d.IsPlain
    · rw [ofText_int_of_isPlain hd hp] at h
      cases h
    · obtain hlt | hge := lt_or_ge |d.value| overflow
      · obtain ⟨y, -, hy⟩ := ofText_int_nearest hd hp hlt
        rw [hy] at h
        cases h
      · rw [ofText_int_infinite hd hp hge] at h
        cases h
        rfl
  · obtain ⟨-, hi, hf⟩ := ofText_of_not_leads fun d u hd => hs ⟨d, u, hd⟩
    refine ⟨⟨_, hf⟩, fun φ h => ?_⟩
    rw [hi] at h
    cases h

variable {v : Value}

theorem IsTextual.toNumber_safe (hv : v.IsTextual) :
    (∃ w, v.toNumber .float = .ok w) ∧ ∀ φ, v.toNumber .int = .error φ → φ = .infinite := by
  constructor
  · rw [(toNumber_failsLike .float v).exists_ok_iff, Outcome.exists_mapM_eq_ok_iff]
    intro x hx
    obtain rfl | ⟨s, o, rfl⟩ := hv x hx
    · exact ⟨_, rfl⟩
    · exact (toNumber_text_safe s).1
  · intro φ h
    obtain ⟨x, hx, hφ⟩ := Outcome.exists_of_mapM_eq_error ((toNumber_failsLike .int v φ).mp h)
    obtain rfl | ⟨s, o, rfl⟩ := hv x hx
    · cases hφ
    · exact (toNumber_text_safe s).2 φ hφ

end Value

namespace Matcher

variable {m : Matcher} {n v : Value} {e : Option Extractor} {s : String} {o : Origin}

/-- Reading numbers from texts is safe: a floating-point number is always there, an integer is
missing only for an infinity, and a text counts as the longest numeral that it starts with. -/
theorem numeric_of_textual (h : m.eval n e = .ok v) (hv : v.IsTextual) :
    (∃ w, m.asFloat.eval n e = .ok w) ∧
    (∀ φ, m.asInt.eval n e = .error φ → φ = .infinite) ∧
    ∀ s o, v = .str s o →
      (∀ t, leading? s = some t → ∃ x, readFloat? t = some x) ∧
      (∀ d u, Leads s.toList d u → leading? s = some (String.ofList u) ∧ ∀ aim,
        (m.numeric aim).eval n e =
          ((constant (.ofString (String.ofList u))).numeric aim).eval n e) ∧
      ((∀ d u, ¬ Leads s.toList d u) → leading? s = Option.none ∧
        m.asInt.eval n e = .ok (.int 0) ∧ m.asFloat.eval n e = .ok (.float 0)) := by
  have hi : m.asInt.eval n e = v.toNumber .int := eval_numeric .int h
  have hf : m.asFloat.eval n e = v.toNumber .float := eval_numeric .float h
  obtain ⟨hfloat, hint⟩ := hv.toNumber_safe
  rw [hi, hf]
  refine ⟨hfloat, hint, ?_⟩
  rintro s o rfl
  refine ⟨fun t => Value.exists_readFloat?, fun d u hd => ⟨Number.leading?_of_leads hd, ?_⟩,
    Value.ofText_of_not_leads⟩
  intro aim
  rw [eval_numeric aim h, eval_numeric aim (eval_constant _ _ _)]
  exact Value.ofText_of_leads hd

def scraps : Value := .list [.ofString "12e+x", .none, .tuple [.ofString "-.5.1"]]

theorem numeric_of_textual_scraps :
    (∃ w, (constant scraps).asFloat.eval .none none = .ok w) ∧
    (constant (.ofString "12e+x")).asInt.eval .none none =
      (constant (.ofString "12")).asInt.eval .none none := by
  have hscraps : scraps.IsTextual := by
    intro x hx
    obtain rfl | rfl | rfl : x = .ofString "12e+x" ∨ x = .none ∨ x = .ofString "-.5.1" := by
      simpa [scraps, Value.atoms, Value.atomsOfAll, Value.ofString] using hx
    · exact .inr ⟨_, _, rfl⟩
    · exact .inl rfl
    · exact .inr ⟨_, _, rfl⟩
  have htext : (Value.ofString "12e+x").IsTextual := fun x hx =>
    .inr ⟨_, _, List.mem_singleton.mp hx⟩
  obtain ⟨u, hu, hs⟩ := Leads.of_splitNumeral (s := "12e+x".toList)
    (n := ⟨false, ['1', '2'], none, none⟩) (t := ['e', '+', 'x']) (by decide)
  obtain rfl : u = "12".toList := List.append_cancel_right (hs.symm.trans (by decide))
  obtain ⟨hf, -, -⟩ := numeric_of_textual (eval_constant scraps .none none) hscraps
  obtain ⟨-, -, hs⟩ := numeric_of_textual (eval_constant _ .none none) htext
  refine ⟨hf, ?_⟩
  obtain ⟨-, hall⟩ := (hs _ _ rfl).2.1 _ _ hu
  exact hall .int

/-- A text counts as the integer part of the number that it starts with, where that number is
written with few enough digits alone or is a floating-point number; otherwise as that of the
nearest floating-point number. -/
theorem asInt_of_text (h : m.eval n e = .ok (.str s o)) :
    (∀ d u, Leads s.toList d u →
      (d.IsPlain ∨ IsDouble d.value → m.asInt.eval n e = .ok (.int (towardZero d.value))) ∧
      (¬ d.IsPlain → |d.value| < overflow →
        ∃ y, IsNearest d.value y ∧ m.asInt.eval n e = .ok (.int (towardZero y))) ∧
      (¬ d.IsPlain → overflow ≤ |d.value| → m.asInt.eval n e = .error .infinite)) ∧
    ((∀ d u, ¬ Leads s.toList d u) → m.asInt.eval n e = .ok (.int 0)) ∧
    ∀ d u w, Writes d u → d.fraction = none → d.power = none → IsDouble d.plain → Trailing w →
      s.toList.dropWhile Text.isSpace = u ++ w → m.asInt.eval n e = .ok (.int d.plain) := by
  have hi : m.asInt.eval n e = Value.ofText .int s := eval_numeric .int h
  rw [hi]
  have hexact : ∀ d u, Leads s.toList d u → d.IsPlain ∨ IsDouble d.value →
      Value.ofText .int s = .ok (.int (towardZero d.value)) :=
    fun d u hd => Value.ofText_int_exact hd
  refine ⟨fun d u hd => ⟨hexact d u hd, Value.ofText_int_nearest hd, Value.ofText_int_infinite hd⟩,
    fun hnone => (Value.ofText_of_not_leads hnone).2.1, ?_⟩
  intro d u w hd hf hp hx hw hs
  obtain ⟨d', hd', hv⟩ := hd.append_trailing hf hp hw
  rw [Numeral.value_of_integer hf hp] at hv
  rw [hexact d' _ (hd'.leads hs) (.inr (hv ▸ hx)), hv, Number.towardZero_intCast]

theorem asInt_of_text_weight :
    (constant (.ofString " 12.5e0kg")).asInt.eval .none none = .ok (.int 12) ∧
    (constant (.ofString "1e400")).asInt.eval .none none = .error .infinite ∧
    (constant (.ofString "kg 12")).asInt.eval .none none = .ok (.int 0) ∧
    (constant (.ofString "12.0")).asInt.eval .none none = .ok (.int 12) := by
  obtain ⟨hw, -, -⟩ := asInt_of_text (eval_constant (.str " 12.5e0kg" .plain) .none none)
  obtain ⟨hl, -, -⟩ := asInt_of_text (eval_constant (.str "1e400" .plain) .none none)
  obtain ⟨-, hk, -⟩ := asInt_of_text (eval_constant (.str "kg 12" .plain) .none none)
  obtain ⟨-, -, hz⟩ := asInt_of_text (eval_constant (.str "12.0" .plain) .none none)
  refine ⟨?_, ?_, hk fun d u hd => ?_, ?_⟩
  · obtain ⟨u, hu, -⟩ := Leads.of_splitNumeral (s := " 12.5e0kg".toList)
      (n := ⟨false, ['1', '2'], some ['5'], some (false, ['0'])⟩) (t := ['k', 'g']) (by decide)
    have hv : Numeral.value ⟨false, ['1', '2'], some ['5'], some (false, ['0'])⟩ = 25 / 2 := by
      rw [Numeral.value_eq]
      change (125 : ℕ) * (10 : ℚ) ^ (-1 : ℤ) = 25 / 2
      norm_num
    have hx : IsDouble (25 / 2) := ⟨25, -1, by norm_num, by norm_num, by norm_num, by norm_num⟩
    have h := (hw _ u hu).1 (.inr (hv ▸ hx))
    rwa [hv, show towardZero (25 / 2) = 12 by norm_num [towardZero]] at h
  · obtain ⟨u, hu, -⟩ := Leads.of_splitNumeral (s := "1e400".toList)
      (n := ⟨false, ['1'], none, some (false, ['4', '0', '0'])⟩) (t := []) (by decide)
    refine (hl _ u hu).2.2 (fun hp => ?_) ?_
    · cases hp.2.1
    · have hlarge : overflow ≤ (1 : ℕ) * (10 : ℚ) ^ (400 : ℤ) :=
        Number.overflow_le one_pos (by norm_num)
      rw [Numeral.value_eq]
      exact hlarge.trans (le_abs_self _)
  · obtain ⟨t, -, ht⟩ := hd.splitNumeral
    have hnone : Number.splitNumeral ("kg 12".toList.dropWhile Text.isSpace) = none := by decide
    rw [hnone] at ht
    cases ht
  · have hwrites : Writes ⟨false, ['1', '2'], none, none⟩ ['1', '2'] :=
      .intro (n := ⟨false, ['1', '2'], none, none⟩) .absent
        (List.forall_mem_cons.mpr ⟨rfl, List.forall_mem_singleton.mpr rfl⟩) .absent .absent
        (.inl (List.cons_ne_nil _ _))
    have hx : IsDouble (12 : ℤ) := Number.isDouble_intCast (by norm_num)
    exact hz _ _ ['.', '0'] hwrites rfl rfl hx .zeroFraction (by decide)

/-- An integer of fifty-four bits loses the last one when a full stop follows it. -/
theorem not_asInt_of_text : ¬ ∀ (m : Matcher) (n : Value) (e : Option Extractor) (s : String)
    (o : Origin), m.eval n e = .ok (.str s o) → ∀ d u, Leads s.toList d u →
      m.asInt.eval n e = .ok (.int (towardZero d.value)) := by
  intro h
  obtain ⟨u, hu, -⟩ := Leads.of_splitNumeral (s := "9007199254740993.".toList)
    (n := ⟨false, "9007199254740993".toList, some [], none⟩) (t := []) (by decide)
  have hv : Numeral.value ⟨false, "9007199254740993".toList, some [], none⟩ =
      (2 ^ 53 + 1 : ℤ) := by
    rw [Numeral.value_eq]
    change (9007199254740993 : ℕ) * (10 : ℚ) ^ (0 : ℤ) = _
    norm_num
  have hnear : IsNearest (2 ^ 53 + 1 : ℤ) (2 ^ 53 : ℤ) := by
    have heven : IsEvenDouble ((2 ^ 52 : ℕ) * 2 ^ (1 : ℤ)) :=
      ⟨2 ^ 51, 1, by norm_num, by norm_num, by norm_num, by norm_num⟩
    have h := Number.isNearest_of_units (x := (2 ^ 53 + 1 : ℤ)) heven.isDouble (fun _ => heven)
      (.inr (by norm_num)) (by norm_num)
    rwa [show ((2 ^ 52 : ℕ) : ℚ) * 2 ^ (1 : ℤ) = (2 ^ 53 : ℤ) by norm_num] at h
  have hlt : |((2 ^ 53 + 1 : ℤ) : ℚ)| < overflow := by
    have hnext : IsDouble (2 ^ 53 + 2) :=
      ⟨2 ^ 52 + 1, 1, by norm_num, by norm_num, by norm_num, by norm_num⟩
    exact lt_trans (by norm_num) hnext.abs_lt_overflow
  have hstr := eval_constant (.str "9007199254740993." .plain) .none none
  have hclaim := (eval_numeric .int hstr).symm.trans (h _ _ _ _ _ hstr _ u hu)
  rw [hv] at hclaim
  obtain ⟨y, hy, hcode⟩ := Value.ofText_int_nearest hu (fun hp => by cases hp.1) (hv ▸ hlt)
  rw [hv] at hy
  obtain rfl := hy.unique hnear
  rw [Number.towardZero_intCast] at hclaim hcode
  cases hclaim.symm.trans hcode

end Matcher

end Quarry
