import Mathlib.Logic.Function.Iterate
import Quarry.Matcher.Parent
import Quarry.Proofs.Matcher.Operation
import Quarry.Proofs.Matcher.Stages

namespace Quarry

/-- The matcher that is made on the root query itself. -/
def Root.matcher (r : Root) : Matcher :=
  if r.all then .multi (.query r.query) else .single (.query r.query)

theorem Matcher.all_of_root?_seqOr {l r : Matcher} : ∀ a ∈ (l.seqOr r).root?, a.all := by
  intro a ha
  rw [Matcher.root?] at ha
  cases hl : l.root? <;> cases hr : r.root? <;> simp_all
  subst a
  rfl

namespace Walk

def ofRoot : Option Root → Walk
  | some r => .found r.matcher r.query
  | none => .lost

def Reaches (w x : Walk) : Prop := ∃ k, step^[k] w = x

theorem Reaches.refl (w : Walk) : w.Reaches w := ⟨0, rfl⟩

theorem Reaches.of_step {w x : Walk} (h : w.step.Reaches x) : w.Reaches x := by
  obtain ⟨k, hk⟩ := h
  exact ⟨k + 1, (Function.iterate_succ_apply step k w).trans hk⟩

theorem reaches_of_merger (m : Matcher) {r : Option Root} (hr : ∀ a ∈ r, a.all) :
    (going m (.ofMerger r)).Reaches (ofRoot r) := by
  cases r with
  | none => exact .of_step (.refl _)
  | some r =>
    have ha : r.matcher = .multi (.query r.query) := by simp [Root.matcher, hr r rfl]
    -- from the unextracted matches to the matches, then to their query
    refine .of_step (.of_step (.of_step ?_))
    rw [ofRoot, ha]
    exact .refl _

mutual

theorem reaches_root : (m i : Matcher) → (going i (.matcher m)).Reaches (ofRoot m.root?)
  | .multi p, _ => .of_step (reaches_path_root p true _ rfl)
  | .single p, _ => .of_step (reaches_path_root p false _ rfl)
  | .constant _, _ => .of_step (.of_step (.refl _))
  | .bind m _, _ => .of_step (reaches_root m _)
  | .map m _, _ => .of_step (reaches_root m _)
  | .deepMap m _, _ => .of_step (reaches_root m _)
  | .flatMap m _, _ => .of_step (reaches_root m _)
  | .parse m _ _ _, _ => .of_step (reaches_root m _)
  | .seqOr _ _, _ => .of_step (reaches_of_merger _ Matcher.all_of_root?_seqOr)
  | .seqOrPath _ _, _ => .of_step (reaches_of_merger _ Matcher.all_of_root?_seqOr)

theorem reaches_path_root : (p : Path) → (all : Bool) → (i : Matcher) →
    i = (if all then .multi p else .single p) →
    (going i (.path p)).Reaches (ofRoot (p.root? all))
  | .query q, _, _, h => by
    subst h
    exact .of_step (.refl _)
  | .function f, _, i, _ => reaches_evaluator_root f i
  | .index _, _, _, _ => .of_step (.refl _)
  | .keyed _ _, _, _, _ => .of_step (.refl _)
  | .malformed _, _, _, _ => .of_step (.refl _)

theorem reaches_evaluator_root : (f : Evaluator) → (i : Matcher) →
    (going i (.path (.function f))).Reaches (ofRoot f.root?)
  | .matcher m, _ => .of_step (reaches_root m _)
  | .plain _ _, _ => .of_step (.refl _)

end

end Walk

def RawPath.query? : RawPath → Option String
  | .text q | .spec (.query q) => some q
  | _ => none

def RawPath.matcher? : RawPath → Option Matcher
  | .callable (.matcher m) | .spec (.function (.matcher m)) => some m
  | _ => none

namespace Matcher

inductive MadeOn (r : RawPath) : Matcher → Prop
  | multi {rs m} (h : multi? (r :: rs) = .ok m) : MadeOn r m
  | single {rs m} (h : single? (r :: rs) = .ok m) : MadeOn r m
  | has {p} (h : r.toPath = .ok p) : MadeOn r (has p)
  | count {p} (h : r.toPath = .ok p) : MadeOn r (count p)

/-- Matchers as they are built, each with the query that it goes back to. -/
inductive Built : Matcher → Option String → Prop
  | query {r m q} (hr : r.query? = some q) (hm : MadeOn r m) : Built m (some q)
  | matcher {r m t a} (hr : r.matcher? = some t) (ht : Built t a) (hm : MadeOn r m) : Built m a
  | other {r m} (hq : r.query? = none) (ht : r.matcher? = none) (hm : MadeOn r m) : Built m none
  | constant (v : Value) : Built (.constant v) none
  | operation {m a} (o : Operation) (hm : Built m a) : Built (o.apply m) a
  | flatMap {m a} (f : Value → Evaluator) (hm : Built m a) : Built (m.flatMap f) a
  | parse {m a} (markup : Markup) (e : Option Extractor) (config : Config) (hm : Built m a) :
      Built (m.parse markup e config) a
  | seqOr {m t u a b} (hm : Built m a) (ht : Built t b)
      (hu : m.seqOr? (.callable (.matcher t)) = .ok u) :
      Built u (do return (← a) ++ " | " ++ (← b))

theorem Nests.root?_chain {make : Path → Matcher} {chain : Path → List Path → Matcher}
    (h : Nests make chain) (p : Path) (ps : List Path) : (chain p ps).root? = (make p).root? := by
  cases ps with
  | nil => rw [h.last]
  | cons q qs => simp only [h.further, raw, root?]

theorem ofPaths_cons_eq_ok {maker : String} {chain : Path → List Path → Matcher} {r : RawPath}
    {rs : List RawPath} {m : Matcher} (h : ofPaths maker chain (r :: rs) = .ok m) :
    ∃ p ps, r.toPath = .ok p ∧ m = chain p ps := by
  rw [ofPaths, List.mapM_cons] at h
  obtain ⟨qs, hqs, h⟩ := Outcome.bind_eq_ok.mp h
  obtain ⟨p, hp, hqs⟩ := Outcome.bind_eq_ok.mp hqs
  obtain ⟨ps, -, hqs⟩ := Outcome.bind_eq_ok.mp hqs
  cases hqs
  exact ⟨p, ps, hp, (Except.ok.inj h).symm⟩

/-- Whatever is made on a path has the root of that path. -/
theorem MadeOn.root? {r : RawPath} {m : Matcher} (h : MadeOn r m) :
    ∃ p all, r.toPath = .ok p ∧ m.root? = p.root? all := by
  cases h with
  | multi h =>
    obtain ⟨p, ps, hp, rfl⟩ := ofPaths_cons_eq_ok h
    exact ⟨p, true, hp, by rw [nests_multiChain.root?_chain, Matcher.root?]⟩
  | single h =>
    obtain ⟨p, ps, hp, rfl⟩ := ofPaths_cons_eq_ok h
    exact ⟨p, false, hp, by rw [nests_singleChain.root?_chain, Matcher.root?]⟩
  | has h => exact ⟨_, true, h, by rw [Matcher.has, Matcher.root?, Matcher.root?]⟩
  | count h => exact ⟨_, true, h, by rw [Matcher.count, Matcher.root?, Matcher.root?]⟩

end Matcher

namespace RawPath

theorem toPath_of_query? {r : RawPath} {q : String} (h : r.query? = some q) :
    r.toPath = .ok (.query q) := by
  unfold query? at h
  split at h <;> cases h <;> rfl

theorem toPath_of_matcher? {r : RawPath} {t : Matcher} (h : r.matcher? = some t) :
    r.toPath = .ok (.function (.matcher t)) := by
  unfold matcher? at h
  split at h <;> cases h <;> rfl

theorem root?_of_toPath {r : RawPath} {p : Path} (hq : r.query? = none) (ht : r.matcher? = none)
    (h : r.toPath = .ok p) (all : Bool) : p.root? all = none := by
  cases r with
  | text s => cases hq
  | number i =>
    rw [toPath, Path.ofIndex] at h
    split at h <;> cases h
    rfl
  | list ps | tuple ps | dict es =>
    rw [toPath] at h
    obtain ⟨es, -, h⟩ := Outcome.bind_eq_ok.mp h
    cases h
    rfl
  | spec p =>
    cases h
    cases p with
    | query q => cases hq
    | function f =>
      cases f with
      | matcher t => cases ht
      | plain name run => rfl
    | _ => rfl
  | callable f =>
    cases h
    cases f with
    | matcher t => cases ht
    | plain name run => rfl
  | other v => cases h

end RawPath

namespace Matcher

theorem seqOr?_matcher (m t : Matcher) : m.seqOr? (.callable (.matcher t)) =
    if m.root?.isSome ∧ t.root?.isSome then .ok (m.seqOr t)
    else .error (.operation .noRootQuery) := by
  unfold seqOr?
  cases hm : m.root? with
  | none => simp
  | some a => simp

theorem Built.root? {m : Matcher} {a : Option String} (h : Built m a) :
    m.root?.map Root.query = a := by
  induction h with
  | query hr hm =>
    obtain ⟨p, all, hp, h⟩ := hm.root?
    cases (RawPath.toPath_of_query? hr).symm.trans hp
    rw [h]
    rfl
  | matcher hr _ hm ih =>
    obtain ⟨p, all, hp, h⟩ := hm.root?
    cases (RawPath.toPath_of_matcher? hr).symm.trans hp
    rw [h, ← ih]
    rfl
  | other hq ht hm =>
    obtain ⟨p, all, hp, h⟩ := hm.root?
    rw [h, RawPath.root?_of_toPath hq ht hp]
    rfl
  | constant v => rfl
  | operation o _ ih => rw [o.root?_apply, ih]
  | flatMap f _ ih => rw [Matcher.root?, ih]
  | parse markup e config _ ih => rw [Matcher.root?, ih]
  | @seqOr m t u a b _ _ hu ihm iht =>
    rw [seqOr?_matcher] at hu
    split at hu <;> cases hu
    subst ihm iht
    rw [Matcher.root?]
    cases m.root? <;> cases t.root? <;> rfl

end Matcher

namespace Root

theorem eval_raw (r : Root) (n : Value) (e : Option Extractor) :
    r.matcher.raw.eval n e =
      (fun vs => if r.all then .list vs else vs.head?.getD .none) <$> Query.run n r.query := by
  obtain ⟨q, all⟩ := r
  cases all with
  | true => cases h : Query.run n q <;> simp [matcher, h]
  | false =>
    cases h : Query.run n q with
    | error x => simp [matcher, h]
    | ok vs => cases vs <;> simp [matcher, h]

theorem nodes_eq (r : Root) (n : Value) (e : Option Extractor) :
    r.nodes n = Value.asList <$> r.matcher.raw.eval n e := by
  rw [eval_raw, nodes]
  obtain ⟨q, all⟩ := r
  cases Query.run n q with
  | error x => rfl
  | ok vs => cases all <;> rfl

theorem bound?_matcher (r : Root) : r.matcher.bound? = none := by
  obtain ⟨q, all⟩ := r
  cases all <;> rfl

end Root

namespace Matcher

theorem walk_and_seqOr?_of_built {m t : Matcher} {a b : Option String} (hm : Built m a)
    (ht : Built t b) :
    ((∃ u, m.seqOr? (.callable (.matcher t)) = .ok u) ↔ a.isSome ∧ b.isSome) ∧
    (¬ (a.isSome ∧ b.isSome) →
      m.seqOr? (.callable (.matcher t)) = .error (.operation .noRootQuery)) ∧
    (a = none → (Walk.start m).Reaches .lost) ∧
    ∀ q, a = some q → ∃ i, (Walk.start m).Reaches (.found i q) ∧ i.bound? = none ∧
      (i = .multi (.query q) ∧ (∀ n e, i.raw.eval n e = Value.list <$> Query.run n q) ∨
        i = .single (.query q) ∧ ∀ n e, i.raw.eval n e =
          (fun vs => vs.head?.getD .none) <$> Query.run n q) := by
  have hw := Walk.reaches_root m m
  have hma : m.root?.isSome = a.isSome := by rw [← hm.root?, Option.isSome_map]
  have htb : t.root?.isSome = b.isSome := by rw [← ht.root?, Option.isSome_map]
  rw [seqOr?_matcher, hma, htb]
  refine ⟨⟨fun ⟨u, hu⟩ => ?_, fun h => ⟨_, if_pos h⟩⟩, fun h => if_neg h, ?_, ?_⟩
  · by_contra h
    rw [if_neg h] at hu
    cases hu
  · intro ha
    have hr : m.root? = none := Option.map_eq_none_iff.mp (hm.root?.trans ha)
    rwa [hr] at hw
  · intro q ha
    obtain ⟨r, hr, rfl⟩ := Option.map_eq_some_iff.mp (hm.root?.trans ha)
    rw [hr] at hw
    refine ⟨r.matcher, hw, r.bound?_matcher, ?_⟩
    have he := r.eval_raw
    obtain ⟨q, all⟩ := r
    cases all with
    | true => exact .inl ⟨rfl, he⟩
    | false => exact .inr ⟨rfl, he⟩

def title : Matcher := (single (.query "title")).withExtractor none

def titleOrLinks : Matcher :=
  ((multi (.function (.matcher title))).seqOr (multi (.query "//a"))).raw

theorem built_title : Built title (some "title") :=
  have hm : MadeOn (.text "title") (single (.query "title")) :=
    .single (show single? [.text "title"] = _ from rfl)
  .operation (.withExtractor none) (.query rfl hm)

theorem built_titleOrLinks : Built titleOrLinks (some "title | //a") := by
  have hl : Built (multi (.function (.matcher title))) (some "title") :=
    .matcher rfl built_title
      (.multi (show multi? [.spec (.function (.matcher title))] = _ from rfl))
  have hr : Built (multi (.query "//a")) (some "//a") :=
    .query rfl (.multi (show multi? [.text "//a"] = _ from rfl))
  exact .operation .raw (.seqOr hl hr rfl)

theorem walk_and_seqOr?_of_titleOrLinks :
    Built titleOrLinks (some "title | //a") ∧ Built (count (.index 0)) none ∧
    titleOrLinks.seqOr? (.callable (.matcher (count (.index 0)))) =
      .error (.operation .noRootQuery) ∧
    (∃ i, (Walk.start titleOrLinks).Reaches (.found i "title | //a") ∧ i.bound? = none) ∧
    (Walk.start (count (.index 0))).Reaches .lost := by
  have hc : Built (count (.index 0)) none := .other (r := .number 0) rfl rfl (.count rfl)
  obtain ⟨-, herr, -, hwalk⟩ := walk_and_seqOr?_of_built built_titleOrLinks hc
  obtain ⟨-, -, hlost, -⟩ := walk_and_seqOr?_of_built hc hc
  obtain ⟨i, hi, hb, -⟩ := hwalk _ rfl
  exact ⟨built_titleOrLinks, hc, herr (by simp), ⟨i, hi, hb⟩, hlost rfl⟩

end Matcher

end Quarry
