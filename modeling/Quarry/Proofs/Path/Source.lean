import Quarry.Matcher.Build
import Quarry.Proofs.Markup.Parse
import Quarry.Proofs.Value.Nodes

namespace Quarry

inductive Source
  | function (f : Value → Outcome Value)
  | evaluator (run : Value → Option Extractor → Outcome Value)
  | malformed (v : Value)

/-- An evaluator raises a fault by itself if it does so under an extractor that never does. -/
def Source.Raises (φ : Fault) : Source → Prop
  | .function f => ∃ v, f v = .error φ
  | .evaluator run => ∃ n e, (∀ v, (Extractor.resolve e).apply v ≠ .error φ) ∧ run n e = .error φ
  | .malformed v => φ = .path (.unknownShape v)

mutual

def Matcher.Contains : Matcher → Source → Prop
  | .multi p, s | .single p, s => p.Contains s
  | .constant _, _ => False
  | .bind m e, s => m.Contains s ∨ s = .function e.apply
  | .map m f, s => m.Contains s ∨ s = .function f
  | .deepMap m f, s => m.Contains s ∨ f.Contains s
  | .flatMap m f, s => m.Contains s ∨ ∃ v, (f v).Contains s
  | .parse m _ e _, s => m.Contains s ∨ s = .function (Extractor.resolve e).apply
  | .seqOr l r, s | .seqOrPath l r, s => l.Contains s ∨ r.Contains s

def Path.Contains : Path → Source → Prop
  | .query _, _ | .index _, _ => False
  | .keyed es _, s => entriesContain es s
  | .function f, s => f.Contains s
  | .malformed v, s => s = .malformed v

def Evaluator.Contains : Evaluator → Source → Prop
  | .matcher m, s => m.Contains s
  | .plain _ run, s => s = .evaluator run

def entriesContain : List (Value × Path) → Source → Prop
  | [], _ => False
  | (_, p) :: es, s => p.Contains s ∨ entriesContain es s

end

theorem entriesContain_iff {es : List (Value × Path)} {s : Source} :
    entriesContain es s ↔ ∃ p ∈ es.map Prod.snd, p.Contains s := by
  induction es with
  | nil => simp [entriesContain]
  | cons a es ih => simp [entriesContain, ih]

/-- A fault that is raised under an extractor, with where it may come from. -/
def ComesFrom (φ : Fault) (e : Extractor) (C : Source → Prop) : Prop :=
  ∃ s, (s = .function e.apply ∨ C s) ∧ s.Raises φ

namespace ComesFrom

variable {φ : Fault} {e g : Extractor} {C D : Source → Prop} {f : Value → Outcome Value} {v : Value}

theorem mono (h : ComesFrom φ e C) (hCD : ∀ s, C s → D s) : ComesFrom φ e D := by
  obtain ⟨s, hs, hr⟩ := h
  exact ⟨s, hs.imp_right (hCD s), hr⟩

theorem bound (h : ComesFrom φ g C) (hg : D (.function g.apply)) (hCD : ∀ s, C s → D s) :
    ComesFrom φ e D := by
  obtain ⟨s, rfl | hs, hr⟩ := h
  · exact ⟨_, .inr hg, hr⟩
  · exact ⟨s, .inr (hCD s hs), hr⟩

theorem of_identity (h : ComesFrom φ .identity C) : ComesFrom φ e C := by
  obtain ⟨s, rfl | hs, hr⟩ := h
  · obtain ⟨v, hv⟩ := hr
    cases hv
  · exact ⟨s, .inr hs, hr⟩

theorem of_extractor (h : e.apply v = .error φ) : ComesFrom φ e C := ⟨_, .inl rfl, v, h⟩

theorem of_function (h : f v = .error φ) (hf : C (.function f)) : ComesFrom φ e C :=
  ⟨_, .inr hf, v, h⟩

theorem of_evaluator {run : Value → Option Extractor → Outcome Value} {n : Value}
    {o : Option Extractor} (h : run n o = .error φ) (hr : C (.evaluator run)) :
    ComesFrom φ (.resolve o) C := by
  by_cases he : ∀ v, (Extractor.resolve o).apply v ≠ .error φ
  · exact ⟨_, .inr hr, n, o, he, h⟩
  · obtain ⟨v, hv⟩ := not_forall_not.mp he
    exact of_extractor hv

end ComesFrom

/-! ### Steps that have nothing to do with paths -/

section NoPath

variable {n : Value} {f : PathFault}

theorem Query.run_ne_path (q : String) : Query.run n q ≠ .error (.path f) := by
  unfold Query.run
  split
  · split
    · nofun
    · split <;> nofun
  · nofun

theorem childAt_ne_path (i : Nat) : childAt n i ≠ .error (.path f) := by
  simp only [childAt]
  split
  · nofun
  · exact fun h => absurd (Except.error.inj h) (Fault.reported_ne nofun nofun)

theorem Root.nodes_ne_path (r : Root) : r.nodes n ≠ .error (.path f) :=
  Outcome.bind_ne_error (Query.run_ne_path _) nofun

theorem gather_ne_path (l r : Option Root) : gather l r n ≠ .error (.path f) := by
  unfold gather
  split
  · exact Outcome.bind_ne_error (Query.run_ne_path _) fun _ =>
      Outcome.bind_ne_error (Root.nodes_ne_path _) fun _ =>
        Outcome.bind_ne_error (Root.nodes_ne_path _) nofun
  · nofun

theorem merge_ne_path (union nodes values : List Value) :
    merge union nodes values ≠ .error (.path f) := by
  unfold merge
  split <;> nofun

theorem pieces_ne_unknownShape (k : Value) (p : Path) (w v : Value) :
    pieces k p w ≠ .error (.path (.unknownShape v)) := by
  unfold pieces
  split
  · split
    · nofun
    · exact fun h => absurd (Except.error.inj h) (Fault.reported_ne nofun nofun)
  · nofun

end NoPath

theorem Matcher.eval_multi_eq_error {p : Path} {n : Value} {e : Option Extractor} {φ : Fault}
    (h : (Matcher.multi p).eval n e = .error φ) (hq : ∀ q, Query.run n q ≠ .error φ) :
    p.eval n (.resolve e) = .error φ ∨ ∃ v, (Extractor.resolve e).apply v = .error φ := by
  cases p with
  | query q =>
    rw [Matcher.eval] at h
    obtain h | ⟨vs, -, h⟩ := Outcome.bind_eq_error.mp h
    · exact absurd h (hq q)
    · obtain h | ⟨ws, -, h⟩ := Outcome.bind_eq_error.mp h
      · obtain ⟨v, -, hv⟩ := Outcome.exists_of_mapM_eq_error h
        exact .inr ⟨v, hv⟩
      · cases h
  | _ => exact .inl h

/-! ### Evaluation -/

section Evaluation

variable {v : Value}

-- by recursion on the syntax: each constructor either fails in a part, in a function of its own,
-- or in a step that never reports an unknown shape

mutual

theorem Matcher.source_of_eval : (m : Matcher) → {n : Value} → {e : Option Extractor} →
    m.eval n e = .error (.path (.unknownShape v)) →
    ComesFrom (.path (.unknownShape v)) (.resolve e) m.Contains
  | .multi p, n, e, h => by
    obtain h | ⟨w, hw⟩ := Matcher.eval_multi_eq_error h fun q => Query.run_ne_path q
    · exact p.source_of_eval h
    · exact .of_extractor hw
  | .single p, _, _, h => p.source_of_eval h
  | .constant _, _, _, h => nomatch h
  | .bind m g, _, _, h => (m.source_of_eval (e := some g) h).bound (.inr rfl) fun _ => .inl
  | .map m f, n, e, h => by
    obtain h | ⟨w, -, h⟩ := Outcome.bind_eq_error.mp h
    · exact (m.source_of_eval h).mono fun _ => .inl
    · exact .of_function h (.inr rfl)
  | .deepMap m f, n, e, h => by
    obtain h | ⟨w, -, h⟩ := Outcome.bind_eq_error.mp h
    · exact (m.source_of_eval h).mono fun _ => .inl
    · obtain ⟨-, x, -, -, -, hx⟩ := Value.replaceNodes_eq_error.mp h
      exact (f.source_of_eval hx).mono fun _ => .inr
  | .flatMap m f, n, e, h => by
    obtain h | ⟨w, -, h⟩ := Outcome.bind_eq_error.mp h
    · have hm := m.source_of_eval h
      exact hm.of_identity.mono fun _ => .inl
    · exact ((f w).source_of_eval h).mono fun _ hs => .inr ⟨w, hs⟩
  | .parse m markup g config, n, e, h => by
    obtain h | ⟨root, -, h⟩ := Outcome.bind_eq_error.mp h
    · exact absurd h (markup.parse_ne_path config)
    · exact (m.source_of_eval h).bound (.inr rfl) fun _ => .inl
  | .seqOr l r, n, e, h => by
    obtain h | ⟨⟨union, nodes⟩, -, h⟩ := Outcome.bind_eq_error.mp h
    · exact absurd h (gather_ne_path _ _)
    obtain h | ⟨x, -, h⟩ := Outcome.bind_eq_error.mp h
    · exact (l.source_of_eval h).mono fun _ => .inl
    obtain h | ⟨y, -, h⟩ := Outcome.bind_eq_error.mp h
    · exact (r.source_of_eval h).mono fun _ => .inr
    · exact absurd h (merge_ne_path _ _ _)
  | .seqOrPath l r, n, e, h => by
    obtain h | ⟨x, -, h⟩ := Outcome.bind_eq_error.mp h
    · exact absurd h (gather_ne_path _ _)
    obtain h | ⟨x, -, h⟩ := Outcome.bind_eq_error.mp h
    · exact (l.source_of_eval h).mono fun _ => .inl
    · cases h

theorem Path.source_of_eval : (p : Path) → {n : Value} → {e : Extractor} →
    p.eval n e = .error (.path (.unknownShape v)) →
    ComesFrom (.path (.unknownShape v)) e p.Contains
  | .query q, n, e, h => by
    obtain h | ⟨vs, -, h⟩ := Outcome.bind_eq_error.mp h
    · exact absurd h (Query.run_ne_path q)
    · cases vs with
      | nil => cases h
      | cons w ws => exact .of_extractor h
  | .index i, n, e, h => by
    obtain h | ⟨c, -, h⟩ := Outcome.bind_eq_error.mp h
    · exact absurd h (childAt_ne_path i)
    · exact .of_extractor h
  | .keyed es sequence, n, e, h => by
    obtain h | ⟨items, -, h⟩ := Outcome.bind_eq_error.mp h
    · exact entries_source_of_eval es h
    · cases h
  | .function f, _, e, h => f.source_of_eval (e := some e) h
  | .malformed w, _, _, h => ⟨.malformed w, .inr rfl, (Except.error.inj h).symm⟩

theorem Evaluator.source_of_eval : (f : Evaluator) → {n : Value} → {e : Option Extractor} →
    f.eval n e = .error (.path (.unknownShape v)) →
    ComesFrom (.path (.unknownShape v)) (.resolve e) f.Contains
  | .matcher m, _, _, h => m.source_of_eval h
  | .plain _ _, _, _, h => .of_evaluator h rfl

theorem entries_source_of_eval : (es : List (Value × Path)) → {n : Value} → {e : Extractor} →
    evalEntries es n e = .error (.path (.unknownShape v)) →
    ComesFrom (.path (.unknownShape v)) e (entriesContain es)
  | [], _, _, h => nomatch h
  | (k, p) :: es, n, e, h => by
    obtain h | ⟨w, -, h⟩ := Outcome.bind_eq_error.mp h
    · exact (p.source_of_eval h).mono fun _ => .inl
    obtain h | ⟨here, -, h⟩ := Outcome.bind_eq_error.mp h
    · exact absurd h (pieces_ne_unknownShape k p w v)
    obtain h | ⟨rest, -, h⟩ := Outcome.bind_eq_error.mp h
    · exact (entries_source_of_eval es h).mono fun _ => .inr
    · cases h

end

end Evaluation

end Quarry
