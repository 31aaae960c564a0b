import Quarry.Proofs.Path.Shape

namespace Quarry

open Outcome (FailsLike)

namespace Value

def IsKeyText (v : Value) : Prop := ∃ s o, v = .str s o

def firstUnder? {α : Type} (k : String) : List (Value × α) → Option α
  | [] => Option.none
  | (l, x) :: es => if l.isText k then some x else firstUnder? k es

def lastUnder? {α : Type} (k : String) : List (Value × α) → Option α
  | [] => Option.none
  | (l, x) :: es => (lastUnder? k es).or (if l.isText k then some x else Option.none)

def at? : Value → List String → Option Value
  | v, [] => some v
  | .dict es, k :: ks => (firstUnder? k es).bind fun v => v.at? ks
  | _, _ :: _ => Option.none

theorem firstUnder?_setEntry {k : String} {l : Value} (hl : l.IsKeyText) (w : Value)
    (es : List (Value × Value)) :
    firstUnder? k (setEntry l w es) = if l.isText k then some w else firstUnder? k es := by
  obtain ⟨s, o, rfl⟩ := hl
  induction es with
  | nil => rfl
  | cons e es ih =>
    obtain ⟨l', w'⟩ := e
    rw [setEntry, same_str]
    by_cases h : l'.isText s
    · -- an entry with the same text is replaced in its place
      have hk : l'.isText k = (Value.str s o).isText k := by
        cases l' with
        | str t p =>
          obtain rfl : t = s := by simpa [isText] using h
          rfl
        | _ => cases h
      rw [if_pos h, firstUnder?, firstUnder?, hk]
      split <;> rfl
    · rw [if_neg h, firstUnder?, firstUnder?, ih]
      by_cases hk : l'.isText k
      · have hne : ¬ (Value.str s o).isText k := by
          intro hs
          obtain rfl : s = k := by simpa [isText] using hs
          exact h hk
        rw [if_pos hk, if_pos hk, if_neg hne]
      · rw [if_neg hk, if_neg hk]

theorem firstUnder?_foldl_setEntry {k : String} (es acc : List (Value × Value))
    (hes : ∀ a ∈ es, a.1.IsKeyText) :
    firstUnder? k (es.foldl (fun acc e => setEntry e.1 e.2 acc) acc) =
      (lastUnder? k es).or (firstUnder? k acc) := by
  induction es generalizing acc with
  | nil => rfl
  | cons e es ih =>
    obtain ⟨hl, hes⟩ := List.forall_mem_cons.mp hes
    rw [List.foldl_cons, ih _ hes, firstUnder?_setEntry hl, lastUnder?, Option.or_assoc]
    split <;> rfl

end Value

namespace Path

def isEnd : Path → Bool
  | .keyed _ _ => false
  | _ => true

/-- Keyed by texts alone, and not written as a list, wherever it is keyed. -/
inductive IsRecord : Path → Prop
  | ends {p : Path} (h : p.isEnd) : IsRecord p
  | keyed {es : List (Value × Path)} (hk : ∀ a ∈ es, a.1.IsKeyText) (h : ∀ a ∈ es, IsRecord a.2) :
      IsRecord (.keyed es false)

/-- The path under the keys of nested keyed paths. -/
def at? : Path → List String → Option Path
  | p, [] => some p
  | .keyed es _, k :: ks => (Value.lastUnder? k es).bind fun p => p.at? ks
  | _, _ :: _ => none

mutual

def ends : Path → List Path
  | .keyed es _ => endsOfEntries es
  | p => [p]

def endsOfEntries : List (Value × Path) → List Path
  | [] => []
  | (_, p) :: es => ends p ++ endsOfEntries es

end

variable {p q : Path} {n v : Value} {e : Extractor}

theorem at?_cons_of_isEnd (h : p.isEnd) (k : String) (ks : List String) :
    p.at? (k :: ks) = none := by
  cases p with
  | keyed es sequence => cases h
  | _ => rfl

theorem not_splices_of_isKeyText {k : Value} (h : k.IsKeyText) : k.splices = false := by
  obtain ⟨s, o, rfl⟩ := h
  rfl

theorem pieces_of_isKeyText {k : Value} (h : k.IsKeyText) (p : Path) (v : Value) :
    pieces k p v = .ok [(k, v)] := by
  rw [pieces, if_neg (by simp [not_splices_of_isKeyText h])]

theorem evalEntries_failsLike {es : List (Value × Path)} (hk : ∀ a ∈ es, a.1.IsKeyText)
    (h : ∀ a ∈ es, FailsLike (a.2.eval n e) (a.2.ends.mapM (Path.eval · n e))) :
    FailsLike (evalEntries es n e) ((endsOfEntries es).mapM (Path.eval · n e)) := by
  induction es with
  | nil => exact .of_ok _ _
  | cons a es ih =>
    obtain ⟨k, p⟩ := a
    obtain ⟨hkey, hk⟩ := List.forall_mem_cons.mp hk
    obtain ⟨hp, h⟩ := List.forall_mem_cons.mp h
    rw [evalEntries, endsOfEntries]
    simp only [pieces_of_isKeyText hkey]
    exact hp.append (ih hk h) fun v items => [(k, v)] ++ items

theorem IsRecord.failsLike (hp : p.IsRecord) :
    FailsLike (p.eval n e) (p.ends.mapM (Path.eval · n e)) := by
  induction hp with
  | @ends p h =>
    have hends : p.ends = [p] := by
      cases p with
      | keyed es sequence => cases h
      | _ => rfl
    rw [hends]
    exact .singleton fun _ => .rfl
  | keyed hk _ ih =>
    rw [Path.eval, Path.ends]
    exact (evalEntries_failsLike hk ih).bind_ok _

theorem forall₂_evalEntries {es : List (Value × Path)} {items : List (Value × Value)}
    (hk : ∀ a ∈ es, a.1.IsKeyText) (h : evalEntries es n e = .ok items) :
    List.Forall₂ (fun a b => a.1 = b.1 ∧ a.2.eval n e = .ok b.2) es items := by
  induction es generalizing items with
  | nil =>
    cases h
    exact .nil
  | cons a es ih =>
    obtain ⟨hkey, hk⟩ := List.forall_mem_cons.mp hk
    rw [evalEntries] at h
    obtain ⟨v, hv, h⟩ := Outcome.bind_eq_ok.mp h
    rw [pieces_of_isKeyText hkey] at h
    obtain ⟨here, hh, h⟩ := Outcome.bind_eq_ok.mp h
    obtain ⟨rest, hr, h⟩ := Outcome.bind_eq_ok.mp h
    cases hh
    cases h
    exact .cons ⟨rfl, hv⟩ (ih hk hr)

theorem lastUnder?_of_forall₂ {es : List (Value × Path)} {items : List (Value × Value)}
    (h : List.Forall₂ (fun a b => a.1 = b.1 ∧ a.2.eval n e = .ok b.2) es items) (k : String) :
    (Value.lastUnder? k es = none ∧ Value.lastUnder? k items = none) ∨
      ∃ q w, Value.lastUnder? k es = some q ∧ Value.lastUnder? k items = some w ∧
        q.eval n e = .ok w := by
  induction h with
  | nil => exact .inl ⟨rfl, rfl⟩
  | @cons a b es items hab _ ih =>
    obtain ⟨l, p⟩ := a
    obtain ⟨l', w⟩ := b
    obtain ⟨rfl, hw⟩ := hab
    simp only [Value.lastUnder?]
    obtain ⟨hes, hitems⟩ | ⟨q, u, hq, hu, hqu⟩ := ih
    · rw [hes, hitems]
      by_cases hl : l.isText k
      · exact .inr ⟨p, w, by simp [hl], by simp [hl], hw⟩
      · exact .inl ⟨by simp [hl], by simp [hl]⟩
    · exact .inr ⟨q, u, by simp [hq], by simp [hu], hqu⟩

theorem IsRecord.of_mem_lastUnder? {k : String} {es : List (Value × Path)}
    (h : ∀ a ∈ es, a.2.IsRecord) (hq : Value.lastUnder? k es = some q) : q.IsRecord := by
  induction es with
  | nil => cases hq
  | cons a es ih =>
    obtain ⟨hp, h⟩ := List.forall_mem_cons.mp h
    rw [Value.lastUnder?, Option.or_eq_some_iff] at hq
    obtain hq | ⟨-, hq⟩ := hq
    · exact ih h hq
    · split at hq
      · cases hq
        exact hp
      · cases hq

/-- The value of a record is a mapping with its keys in order; under each key is the value of the
last path with that key. -/
theorem eval_record {es : List (Value × Path)} (hk : ∀ a ∈ es, a.1.IsKeyText)
    (hv : (Path.keyed es false).eval n e = .ok v) : ∃ fs, v = .dict fs ∧
      fs.map Prod.fst = Value.distinct (es.map Prod.fst) ∧
      ∀ k q, Value.lastUnder? k es = some q →
        ∃ w, Value.firstUnder? k fs = some w ∧ q.eval n e = .ok w := by
  obtain ⟨items, hi, rfl⟩ := eval_keyed_eq_ok hv
  have hsplices : ∀ a ∈ es, ¬ a.1.splices := fun a ha => by
    simp [not_splices_of_isKeyText (hk a ha)]
  have hshape : (Path.keyed es false).isListShaped = false := by
    simpa [isListShaped] using hsplices
  have hkeys := keys_evalEntries hsplices hi
  obtain ⟨fs, hfs, hdistinct⟩ := Value.keys_ofEntries items
  refine ⟨fs, by rw [hshape]; exact hfs, hkeys ▸ hdistinct, fun k q hq => ?_⟩
  have hkt : ∀ b ∈ items, b.1.IsKeyText := by
    intro b hb
    obtain ⟨a, ha, hab⟩ := List.mem_map.mp (hkeys ▸ List.mem_map_of_mem hb)
    exact hab ▸ hk a ha
  cases hfs
  rw [Value.firstUnder?_foldl_setEntry items [] hkt]
  obtain ⟨hnone, -⟩ | ⟨q', w, hq', hw, hqw⟩ := lastUnder?_of_forall₂ (forall₂_evalEntries hk hi) k
  · rw [hq] at hnone
    cases hnone
  · rw [hq] at hq'
    cases hq'
    exact ⟨w, by rw [hw]; rfl, hqw⟩

/-- What a record gives at every path of keys is what the path there gives by itself. -/
theorem IsRecord.eval_at? (hp : p.IsRecord) (hv : p.eval n e = .ok v) {ks : List String}
    (hq : p.at? ks = some q) : ∃ w, v.at? ks = some w ∧ q.eval n e = .ok w ∧ q.IsRecord := by
  induction ks generalizing p v with
  | nil =>
    cases hq
    exact ⟨v, by rw [Value.at?], hv, hp⟩
  | cons k ks ih =>
    cases hp with
    | ends h =>
      rw [at?_cons_of_isEnd h] at hq
      cases hq
    | @keyed es hk h =>
      rw [Path.at?] at hq
      obtain ⟨r, hr, hq⟩ := Option.bind_eq_some_iff.mp hq
      obtain ⟨fs, rfl, -, hlast⟩ := eval_record hk hv
      obtain ⟨u, hu, hru⟩ := hlast k r hr
      obtain ⟨w, hw, hqw⟩ := ih (IsRecord.of_mem_lastUnder? h hr) hru hq
      exact ⟨w, by rw [Value.at?, hu]; exact hw, hqw⟩

theorem record_mirrors (hp : p.IsRecord) (n : Value) (e : Extractor) :
    ((∃ v, p.eval n e = .ok v) ↔ ∀ q ∈ p.ends, ∃ w, q.eval n e = .ok w) ∧
    (∀ φ, p.eval n e = .error φ ↔ ∃ qs q rs, p.ends = qs ++ q :: rs ∧
      (∀ r ∈ qs, ∃ w, r.eval n e = .ok w) ∧ q.eval n e = .error φ) ∧
    ∀ v, p.eval n e = .ok v → ∀ ks q, p.at? ks = some q →
      ∃ w, v.at? ks = some w ∧ q.eval n e = .ok w ∧
        ∀ es, q = .keyed es false →
          ∃ fs, w = .dict fs ∧ fs.map Prod.fst = Value.distinct (es.map Prod.fst) := by
  refine ⟨hp.failsLike.exists_ok_iff.trans Outcome.exists_mapM_eq_ok_iff,
    fun φ => (hp.failsLike φ).trans Outcome.mapM_eq_error, ?_⟩
  intro v hv ks q hq
  obtain ⟨w, hw, hqw, hrec⟩ := hp.eval_at? hv hq
  refine ⟨w, hw, hqw, ?_⟩
  rintro es rfl
  cases hrec with
  | ends h => cases h
  | keyed hk _ =>
    obtain ⟨fs, hfs, hkeys, -⟩ := eval_record hk hqw
    exact ⟨fs, hfs, hkeys⟩

def card : Path :=
  .keyed [(.ofString "title", .index 0),
    (.ofString "person", .keyed [(.ofString "name", .query "*"), (.ofString "age", .index 1),
      (.ofString "name", .index 1)] false)] false

theorem isRecord_card : card.IsRecord := by
  have hends : ∀ i, (Path.index i).IsRecord := fun i => .ends rfl
  have hq : (Path.query "*").IsRecord := .ends rfl
  have hperson : (Path.keyed [(.ofString "name", .query "*"), (.ofString "age", .index 1),
      (.ofString "name", .index 1)] false).IsRecord :=
    .keyed (by simp [Value.IsKeyText, Value.ofString]) (by simp [hends, hq])
  exact .keyed (by simp [Value.IsKeyText, Value.ofString]) (by simp [hends, hperson])

theorem record_mirrors_card : ∃ v w, card.eval Sample.top .oneline = .ok v ∧
    v.at? ["person", "name"] = some w ∧ (Path.index 1).eval Sample.top .oneline = .ok w := by
  obtain ⟨hok, -, hat⟩ := record_mirrors isRecord_card Sample.top .oneline
  have hq : ∃ w, (Path.query "*").eval Sample.top .oneline = .ok w := by
    rw [eval_query, Sample.finds_elements.run]
    exact ⟨_, rfl⟩
  have hi : ∀ {i c}, childAt Sample.top i = .ok c →
      ∃ w, (Path.index i).eval Sample.top .oneline = .ok w := by
    intro i c hc
    rw [eval_index, hc]
    exact ⟨_, rfl⟩
  obtain ⟨v, hv⟩ := hok.mpr (by
    simpa [card, Path.ends, Path.endsOfEntries] using ⟨hi (i := 0) rfl, hq, hi (i := 1) rfl⟩)
  obtain ⟨w, hw, hqw, -⟩ := hat v hv ["person", "name"] (.index 1) rfl
  exact ⟨v, w, hv, hw, hqw⟩

end Path

end Quarry
