import Quarry.Proofs.Matcher.Evaluation
import Quarry.Proofs.Value.Keys
import Quarry.Proofs.Value.Place

namespace Quarry

variable {α β : Type} {P Q : Prop} {F G : Fault → Prop} {p : Path} {n : Value} {e : Extractor}

/-- Success under a condition; where it does not hold, a fault of a certain kind. -/
def Outcome.Checks (x : Outcome α) (P : Prop) (F : Fault → Prop) : Prop :=
  (P ∧ ∃ a, x = .ok a) ∨ (¬ P ∧ ∃ φ, F φ ∧ x = .error φ)

namespace Outcome.Checks

theorem ok (a : α) : Checks (.ok a) True F := .inl ⟨trivial, a, rfl⟩

theorem iff {x : Outcome α} (hx : Checks x P F) (h : P ↔ Q) : Checks x Q F := propext h ▸ hx

theorem mono {x : Outcome α} (hx : Checks x P F) (h : ∀ φ, F φ → G φ) : Checks x P G :=
  hx.imp_right fun ⟨hp, φ, hφ, hx⟩ => ⟨hp, φ, h φ hφ, hx⟩

theorem bind {x : Outcome α} {f : α → Outcome β} (hx : Checks x P F)
    (hf : ∀ a, x = .ok a → Checks (f a) Q F) : Checks (x >>= f) (P ∧ Q) F := by
  obtain ⟨hp, a, rfl⟩ | ⟨hp, φ, hφ, rfl⟩ := hx
  · obtain ⟨hq, b, hb⟩ | ⟨hq, φ, hφ, hb⟩ := hf a rfl
    · exact .inl ⟨⟨hp, hq⟩, b, hb⟩
    · exact .inr ⟨fun h => hq h.2, φ, hφ, hb⟩
  · exact .inr ⟨fun h => hp h.1, φ, hφ, rfl⟩

theorem bind_ok {x : Outcome α} (hx : Checks x P F) (f : α → β) :
    Checks (x >>= fun a => .ok (f a)) P F :=
  (hx.bind fun a _ => ok (f a)).iff (iff_of_eq (and_true P))

theorem success {x : Outcome α} (hx : Checks x P F) : (∃ a, x = .ok a) ↔ P := by
  obtain ⟨hp, hx⟩ | ⟨hp, φ, -, rfl⟩ := hx
  · exact iff_of_true hx hp
  · exact iff_of_false (fun ⟨_, h⟩ => nomatch h) hp

theorem refusal {x : Outcome α} (hx : Checks x P F) (hp : ¬ P) : ∃ φ, F φ ∧ x = .error φ := by
  obtain ⟨h, -⟩ | ⟨-, h⟩ := hx
  · exact absurd h hp
  · exact h

end Outcome.Checks

def Extractor.GivesSingle (e : Extractor) : Prop := ∀ v, ∃ w, e.apply v = .ok w ∧ w.members? = none

theorem Extractor.GivesSingle.members_of_apply (he : e.GivesSingle) {v w : Value}
    (h : e.apply v = .ok w) : w.members? = none := by
  obtain ⟨u, hu, hn⟩ := he v
  cases hu.symm.trans h
  exact hn

namespace Path

/-- Of queries, indices and keyed paths alone, with queries that can be run at a node and indices
of its children. -/
inductive FitsAt (n : Value) : Path → Prop
  | query {q vs} (h : Query.run n q = .ok vs) : FitsAt n (.query q)
  | index {i c} (h : childAt n i = .ok c) : FitsAt n (.index i)
  | keyed {es sequence} (hk : ∀ a ∈ es, checkKey a.1 = .ok ())
      (h : ∀ a ∈ es, FitsAt n a.2) : FitsAt n (.keyed es sequence)

def GivesList : Path → Prop
  | .keyed es sequence => sequence ∨ ∃ i q, (Value.int i, q) ∈ es
  | _ => False

inductive HasEntry : Path → Value → Path → Prop
  | here {es sequence k q} (h : (k, q) ∈ es) : HasEntry (.keyed es sequence) k q
  | inside {es sequence l p k q} (h : (l, p) ∈ es) (hq : HasEntry p k q) :
      HasEntry (.keyed es sequence) k q

/-- How a path is refused that stands where a list is needed: as such, if it can be written. -/
def Refused (q : Path) (φ : Fault) : Prop :=
  (q.isWritable ∧ ∃ f, φ = .path f) ∨ (¬ q.isWritable ∧ φ = .unwritable)

/-- The fault of a number for a key, however deep, over a path that gives no list. -/
def SpliceFault (p : Path) (φ : Fault) : Prop :=
  ∃ i q, p.HasEntry (.int i) q ∧ ¬ q.GivesList ∧ q.Refused φ

def SplicesLists (p : Path) : Prop := ∀ i q, p.HasEntry (.int i) q → q.GivesList

def SplicesEntry (a : Value × Path) : Prop := a.2.SplicesLists ∧ (a.1.splices → a.2.GivesList)

def EntryFault (a : Value × Path) (φ : Fault) : Prop :=
  a.2.SpliceFault φ ∨ (a.1.splices ∧ ¬ a.2.GivesList ∧ a.2.Refused φ)

theorem splicesLists_query (q : String) : (Path.query q).SplicesLists := fun _ _ h => nomatch h

theorem splicesLists_index (i : Nat) : (Path.index i).SplicesLists := fun _ _ h => nomatch h

theorem splices_iff {k : Value} (h : checkKey k = .ok ()) : k.splices ↔ ∃ i, k = .int i := by
  cases k <;> simp_all [checkKey, Value.splices]

theorem FitsAt.isListShaped_iff (hp : p.FitsAt n) : p.isListShaped ↔ p.GivesList := by
  cases hp with
  | query | index => simp [isListShaped, GivesList]
  | @keyed es sequence hk =>
    have hs : (∃ a ∈ es, a.1.splices) ↔ ∃ i q, (Value.int i, q) ∈ es := by
      constructor
      · rintro ⟨⟨k, q⟩, hm, h⟩
        obtain ⟨i, rfl⟩ := (splices_iff (hk _ hm)).mp h
        exact ⟨i, q, hm⟩
      · rintro ⟨i, q, hm⟩
        exact ⟨_, hm, rfl⟩
    simp only [isListShaped, GivesList, Bool.or_eq_true, List.any_eq_true, hs]

theorem splicesLists_keyed {es : List (Value × Path)} {sequence : Bool}
    (hk : ∀ a ∈ es, checkKey a.1 = .ok ()) :
    (Path.keyed es sequence).SplicesLists ↔ ∀ a ∈ es, SplicesEntry a := by
  constructor
  · rintro h ⟨k, q⟩ hm
    refine ⟨fun i r hr => h i r (.inside hm hr), fun hs => ?_⟩
    obtain ⟨i, rfl⟩ := (splices_iff (hk _ hm)).mp hs
    exact h i q (.here hm)
  · intro h i r hr
    cases hr with
    | here hm => exact (h _ hm).2 rfl
    | inside hm hr => exact (h _ hm).1 i r hr

theorem spliceFault_keyed {es : List (Value × Path)} {sequence : Bool} {φ : Fault}
    (hk : ∀ a ∈ es, checkKey a.1 = .ok ()) (h : ∃ a ∈ es, EntryFault a φ) :
    (Path.keyed es sequence).SpliceFault φ := by
  obtain ⟨⟨k, q⟩, hm, ⟨i, r, hr, hl⟩ | ⟨hs, hl⟩⟩ := h
  · exact ⟨i, r, .inside hm hr, hl⟩
  · obtain ⟨i, rfl⟩ := (splices_iff (hk _ hm)).mp hs
    exact ⟨i, q, .here hm, hl⟩

theorem refused_spliced (q : Path) (got : String) :
    q.Refused (Fault.path (.spliced q.kind q.text? got)).reported := by
  rw [text?]
  split
  · exact .inl ⟨‹_›, _, rfl⟩
  · exact .inr ⟨‹_›, rfl⟩

end Path

theorem checks_pieces (k : Value) (p : Path) (v : Value) :
    Outcome.Checks (pieces k p v) (k.splices → v.members?.isSome) fun φ =>
      k.splices ∧ ¬ v.members?.isSome ∧ p.Refused φ := by
  by_cases hk : k.splices
  · rw [pieces, if_pos hk]
    cases v.members? with
    | none =>
      have hp := p.refused_spliced v.typeName
      exact .inr ⟨fun h => Bool.false_ne_true (h hk), _, ⟨hk, Bool.false_ne_true, hp⟩, rfl⟩
    | some vs => exact .inl ⟨fun _ => rfl, _, rfl⟩
  · rw [pieces, if_neg hk]
    exact .inl ⟨fun h => absurd h hk, _, rfl⟩

theorem keys_evalEntries {es : List (Value × Path)} {items : List (Value × Value)}
    (hs : ∀ a ∈ es, ¬ a.1.splices) (h : evalEntries es n e = .ok items) :
    items.map Prod.fst = es.map Prod.fst := by
  induction es generalizing items with
  | nil => cases h; rfl
  | cons a es ih =>
    obtain ⟨hk, hs⟩ := List.forall_mem_cons.mp hs
    rw [evalEntries] at h
    obtain ⟨v, -, h⟩ := Outcome.bind_eq_ok.mp h
    obtain ⟨here, hp, h⟩ := Outcome.bind_eq_ok.mp h
    obtain ⟨rest, hr, h⟩ := Outcome.bind_eq_ok.mp h
    cases h
    rw [pieces, if_neg hk] at hp
    cases hp
    simp [ih hs hr]

namespace Path

theorem eval_keyed_eq_ok {es : List (Value × Path)} {sequence : Bool} {v : Value}
    (h : (Path.keyed es sequence).eval n e = .ok v) : ∃ items, evalEntries es n e = .ok items ∧
      v = assemble (Path.keyed es sequence).isListShaped items := by
  rw [eval_keyed] at h
  obtain ⟨items, hi, rfl⟩ := Outcome.map_eq_ok.mp h
  exact ⟨items, hi, rfl⟩

theorem FitsAt.list_of_eval (hp : p.FitsAt n) (he : e.GivesSingle) {v : Value}
    (hv : p.eval n e = .ok v) :
    (p.GivesList → ∃ vs, v = .list vs) ∧ (¬ p.GivesList → v.members? = none) := by
  rw [← hp.isListShaped_iff]
  cases hp with
  | @query q vs h =>
    refine ⟨fun hl => absurd hl Bool.false_ne_true, fun _ => ?_⟩
    rw [eval_query, h] at hv
    cases vs with
    | nil => cases hv; rfl
    | cons w ws => exact he.members_of_apply hv
  | @index i c h =>
    refine ⟨fun hl => absurd hl Bool.false_ne_true, fun _ => ?_⟩
    rw [eval_index, h] at hv
    exact he.members_of_apply hv
  | keyed =>
    obtain ⟨items, -, rfl⟩ := eval_keyed_eq_ok hv
    refine ⟨fun hl => ?_, fun hl => ?_⟩
    · rw [assemble, if_pos hl]
      exact ⟨_, rfl⟩
    · rw [assemble, if_neg hl]
      rfl

theorem FitsAt.members_of_eval (hp : p.FitsAt n) (he : e.GivesSingle) {v : Value}
    (hv : p.eval n e = .ok v) : v.members?.isSome ↔ p.GivesList := by
  obtain ⟨hlist, hnone⟩ := hp.list_of_eval he hv
  by_cases hl : p.GivesList
  · obtain ⟨vs, rfl⟩ := hlist hl
    exact iff_of_true rfl hl
  · rw [hnone hl]
    exact iff_of_false Bool.false_ne_true hl

end Path

/-- Each entry is checked for itself, from the first to the last. -/
theorem checks_evalEntries {es : List (Value × Path)} (he : e.GivesSingle)
    (h : ∀ a ∈ es, a.2.FitsAt n)
    (hc : ∀ a ∈ es, Outcome.Checks (a.2.eval n e) a.2.SplicesLists a.2.SpliceFault) :
    Outcome.Checks (evalEntries es n e) (∀ a ∈ es, Path.SplicesEntry a) fun φ =>
      ∃ a ∈ es, Path.EntryFault a φ := by
  induction es with
  | nil => exact .inl ⟨fun _ hm => absurd hm List.not_mem_nil, [], rfl⟩
  | cons a es ih =>
    obtain ⟨k, q⟩ := a
    obtain ⟨hfits, h⟩ := List.forall_mem_cons.mp h
    obtain ⟨hq, hc⟩ := List.forall_mem_cons.mp hc
    have hhere : ∀ v, q.eval n e = .ok v → Outcome.Checks (pieces k q v)
        (k.splices → q.GivesList) (Path.EntryFault (k, q)) := by
      intro v hv
      have hl := hfits.members_of_eval he hv
      exact ((checks_pieces k q v).iff (imp_congr_right fun _ => hl)).mono
        fun φ ⟨hk, hn, hp⟩ => .inr ⟨hk, mt hl.mpr hn, hp⟩
    have hfirst : ∀ φ, Path.EntryFault (k, q) φ → ∃ a ∈ (k, q) :: es, Path.EntryFault a φ :=
      fun φ hφ => ⟨_, List.mem_cons_self, hφ⟩
    have hrest : ∀ φ, (∃ a ∈ es, Path.EntryFault a φ) → ∃ a ∈ (k, q) :: es, Path.EntryFault a φ :=
      fun φ => fun ⟨a, ha, hφ⟩ => ⟨a, List.mem_cons_of_mem _ ha, hφ⟩
    have hall := (hq.mono fun φ hφ => hfirst φ (.inl hφ)).bind fun v hv =>
      ((hhere v hv).mono hfirst).bind fun here _ =>
        ((ih h hc).mono hrest).bind_ok fun rest => here ++ rest
    rw [evalEntries]
    exact hall.iff (and_assoc.symm.trans (List.forall_mem_cons (p := Path.SplicesEntry)).symm)

namespace Path

theorem FitsAt.checks_eval (hp : p.FitsAt n) (he : e.GivesSingle) :
    Outcome.Checks (p.eval n e) p.SplicesLists p.SpliceFault := by
  -- whether an entry may be spliced is seen from its value, whose shape `members_of_eval` knows
  induction hp with
  | @query q vs h =>
    refine .inl ⟨splicesLists_query q, ?_⟩
    rw [eval_query, h]
    cases vs with
    | nil => exact ⟨_, rfl⟩
    | cons v vs => exact (he v).imp fun w hw => hw.1
  | @index i c h =>
    refine .inl ⟨splicesLists_index i, ?_⟩
    rw [eval_index, h]
    exact (he c).imp fun w hw => hw.1
  | keyed hk h ih =>
    have hc := checks_evalEntries he h ih
    rw [eval_keyed, map_eq_pure_bind]
    exact ((hc.bind_ok _).iff (splicesLists_keyed hk).symm).mono fun _ => spliceFault_keyed hk

theorem FitsAt.dict_of_eval {es : List (Value × Path)} {sequence : Bool}
    (hp : (Path.keyed es sequence).FitsAt n) (hl : ¬ (Path.keyed es sequence).GivesList) {v : Value}
    (hv : (Path.keyed es sequence).eval n e = .ok v) :
    ∃ fs, v = .dict fs ∧ fs.map Prod.fst = Value.distinct (es.map Prod.fst) := by
  rw [← hp.isListShaped_iff] at hl
  have hs : ∀ a ∈ es, ¬ a.1.splices := by
    intro a hm hk
    exact hl (Bool.or_eq_true _ _ |>.mpr (.inr (List.any_eq_true.mpr ⟨a, hm, hk⟩)))
  obtain ⟨items, hi, rfl⟩ := eval_keyed_eq_ok hv
  obtain ⟨fs, hf, hkeys⟩ := Value.keys_ofEntries items
  refine ⟨fs, ?_, ?_⟩
  · rw [assemble, if_neg hl, hf]
  · rw [hkeys, keys_evalEntries hs hi]

/-- What a path alone says about the outcome of its evaluation, wherever that takes place and
whatever its queries find there. -/
structure ShapedBy (p : Path) (x : Outcome Value) : Prop where
  success : (∃ v, x = .ok v) ↔ p.SplicesLists
  fault : ¬ p.SplicesLists → ∃ φ, p.SpliceFault φ ∧ x = .error φ
  refusal : ¬ p.SplicesLists → (∀ i q, p.HasEntry (.int i) q → q.isWritable) →
    ∃ f, x = .error (.path f)
  list : ∀ v, x = .ok v → ((∃ vs, v = .list vs) ↔ p.GivesList)
  keys : ∀ es sequence v, p = .keyed es sequence → ¬ p.GivesList → x = .ok v →
    ∃ fs, v = .dict fs ∧ fs.map Prod.fst = Value.distinct (es.map Prod.fst)

theorem shapedBy_eval (hp : p.FitsAt n) (he : e.GivesSingle) : p.ShapedBy (p.eval n e) := by
  have hc := hp.checks_eval he
  refine ⟨hc.success, hc.refusal, fun hn hw => ?_, fun v hv => ⟨?_, ?_⟩, ?_⟩
  · obtain ⟨φ, ⟨i, q, hq, -, ⟨-, f, rfl⟩ | ⟨hwrite, -⟩⟩, hx⟩ := hc.refusal hn
    · exact ⟨f, hx⟩
    · exact absurd (hw i q hq) hwrite
  · rintro ⟨vs, rfl⟩
    exact (hp.members_of_eval he hv).mp rfl
  · exact (hp.list_of_eval he hv).1
  · rintro es sequence v rfl hl hv
    exact hp.dict_of_eval hl hv

def record : Path :=
  .keyed [(.ofString "name", .query "*"), (.ofString "all", .keyed listed false),
    (.ofString "name", .index 1)] false
where
  listed : List (Value × Path) :=
    [(.int 0, .keyed [(.ofString "last", .index 1)] true), (.int 1, .keyed [] true)]

theorem fitsAt_record : record.FitsAt Sample.top := by
  have hone : (Path.keyed [(.ofString "last", .index 1)] true).FitsAt Sample.top :=
    .keyed (by simp [checkKey, Value.ofString]) (by simpa using .index rfl)
  have hlisted : (Path.keyed record.listed false).FitsAt Sample.top :=
    .keyed (by simp [record.listed, checkKey])
      (by simpa [record.listed] using ⟨hone, .keyed (by simp) (by simp)⟩)
  exact .keyed (by simp [checkKey, Value.ofString])
    (by simpa using ⟨.query Sample.finds_elements.run, hlisted, .index rfl⟩)

theorem splicesLists_record : record.SplicesLists := by
  have hone : (Path.keyed [(.ofString "last", .index 1)] true).SplicesLists :=
    (splicesLists_keyed (by simp [checkKey, Value.ofString])).mpr
      (by simp [SplicesEntry, splicesLists_index, Value.ofString, Value.splices])
  have hlisted : (Path.keyed record.listed false).SplicesLists :=
    (splicesLists_keyed (by simp [record.listed, checkKey])).mpr
      (by simp [record.listed, SplicesEntry, hone, splicesLists_keyed, GivesList])
  exact (splicesLists_keyed (by simp [checkKey, Value.ofString])).mpr
    (by simp [SplicesEntry, splicesLists_query, splicesLists_index, hlisted, Value.ofString,
      Value.splices])

theorem shapedBy_eval_record : record.FitsAt Sample.top ∧ Extractor.oneline.GivesSingle ∧
    ∃ fs, record.eval Sample.top .oneline = .ok (.dict fs) ∧
      fs.map Prod.fst = [.ofString "name", .ofString "all"] := by
  have he : Extractor.oneline.GivesSingle := fun v => ⟨_, rfl, rfl⟩
  have hshape := shapedBy_eval fitsAt_record he
  obtain ⟨v, hv⟩ := hshape.success.mpr splicesLists_record
  have hd : ¬ record.GivesList := by simp [record, GivesList, Value.ofString]
  obtain ⟨fs, rfl, hk⟩ := hshape.keys _ _ v rfl hd hv
  exact ⟨fitsAt_record, he, fs, hv, hk⟩

def buried : Path := .keyed [(.int 0, .keyed inner false)] false
where
  inner : List (Value × Path) :=
    [(.ofString "a", .keyed [(.int Number.writeLimit, .keyed [] true)] false)]

theorem text?_inner : (Path.keyed buried.inner false).text? = none := by
  simp [text?, isWritable, entriesWritable, buried.inner, Value.ofString, Value.isWritable,
    Number.isWritable]

/-- The fault of a path that is too long to be written is not reported as one of paths. -/
theorem not_eval_refused : ¬ ∀ (p : Path) (n : Value) (e : Extractor), p.FitsAt n →
    e.GivesSingle → ¬ p.SplicesLists → ∃ f, p.eval n e = .error (.path f) := by
  intro h
  have hinner : (Path.keyed buried.inner false).FitsAt Sample.top :=
    .keyed (by simp [buried.inner, checkKey, Value.ofString])
      (by simpa [buried.inner] using
        .keyed (by simp [checkKey]) (by simpa using .keyed nofun nofun))
  have hfits : buried.FitsAt Sample.top :=
    .keyed (by simp [checkKey]) (by simpa using hinner)
  have hsplices : ¬ buried.SplicesLists := fun hs => by
    have hl := hs 0 _ (.here List.mem_cons_self)
    simp [GivesList, buried.inner, Value.ofString] at hl
  have heval : buried.eval Sample.top .oneline =
      .error (Fault.path (.spliced "KeyedPaths" none "dict")).reported := by
    rw [← text?_inner]
    rfl
  obtain ⟨f, hf⟩ := h buried Sample.top .oneline hfits (fun v => ⟨_, rfl, rfl⟩) hsplices
  cases heval.symm.trans hf

end Path

end Quarry
