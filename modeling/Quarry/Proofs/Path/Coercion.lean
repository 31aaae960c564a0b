import Quarry.Proofs.Path.Source
import Quarry.Proofs.Path.Written

namespace Quarry

mutual

/-- Without keyed paths that were made before, in the value or in the matchers inside it. The paths
of such a matcher, and of those that its binds choose, have been turned into paths in this way. -/
inductive RawPath.Fresh : RawPath → Prop
  | text (s : String) : RawPath.Fresh (.text s)
  | number (i : Int) : RawPath.Fresh (.number i)
  | list {ps : List RawPath} (h : ∀ p ∈ ps, RawPath.Fresh p) : RawPath.Fresh (.list ps)
  | tuple {ps : List RawPath} (h : ∀ p ∈ ps, RawPath.Fresh p) : RawPath.Fresh (.tuple ps)
  | dict {es : List (Value × RawPath)} (h : ∀ p ∈ es.map Prod.snd, RawPath.Fresh p) :
      RawPath.Fresh (.dict es)
  | query (q : String) : RawPath.Fresh (.spec (.query q))
  | index (i : Nat) : RawPath.Fresh (.spec (.index i))
  | function {f : Evaluator} (h : Evaluator.Fresh f) : RawPath.Fresh (.spec (.function f))
  | callable {f : Evaluator} (h : Evaluator.Fresh f) : RawPath.Fresh (.callable f)
  | other (v : Value) : RawPath.Fresh (.other v)

inductive Evaluator.Fresh : Evaluator → Prop
  | matcher {m : Matcher} (h : Matcher.Fresh m) : Evaluator.Fresh (.matcher m)
  | plain (name : String) (run : Value → Option Extractor → Outcome Value) :
      Evaluator.Fresh (.plain name run)

inductive Matcher.Fresh : Matcher → Prop
  | multi {r : RawPath} {p : Path} (hr : RawPath.Fresh r) (hp : r.toPath = .ok p) :
      Matcher.Fresh (.multi p)
  | single {r : RawPath} {p : Path} (hr : RawPath.Fresh r) (hp : r.toPath = .ok p) :
      Matcher.Fresh (.single p)
  | constant (v : Value) : Matcher.Fresh (.constant v)
  | bind {m : Matcher} (e : Extractor) (h : Matcher.Fresh m) : Matcher.Fresh (.bind m e)
  | map {m : Matcher} (f : Value → Outcome Value) (h : Matcher.Fresh m) : Matcher.Fresh (.map m f)
  | deepMap {m : Matcher} {f : Evaluator} (h : Matcher.Fresh m) (hf : Evaluator.Fresh f) :
      Matcher.Fresh (.deepMap m f)
  | flatMap {m : Matcher} {f : Value → Evaluator} (h : Matcher.Fresh m)
      (hf : ∀ v, Evaluator.Fresh (f v)) : Matcher.Fresh (.flatMap m f)
  | parse {m : Matcher} (markup : Markup) (e : Option Extractor) (config : Config)
      (h : Matcher.Fresh m) : Matcher.Fresh (.parse m markup e config)
  | seqOr {l r : Matcher} (hl : Matcher.Fresh l) (hr : Matcher.Fresh r) :
      Matcher.Fresh (.seqOr l r)
  | seqOrPath {l r : Matcher} (hl : Matcher.Fresh l) (hr : Matcher.Fresh r) :
      Matcher.Fresh (.seqOrPath l r)

end

theorem RawPath.writes_of_toPath {r : RawPath} {p : Path} (h : r.toPath = .ok p) :
    Writes r p := by
  have hr := toPath_reports r
  cases hf : r.faults with
  | nil =>
    rw [hf] at hr
    obtain ⟨q, hq, hw⟩ := hr
    cases hq.symm.trans h
    exact hw
  | cons f fs =>
    rw [hf] at hr
    cases hr.symm.trans h

theorem not_entriesContain {rs : List RawPath} {es : List (Value × Path)} {s : Source}
    (hw : List.Forall₂ RawPath.Writes rs (es.map Prod.snd))
    (h : ∀ r ∈ rs, ∀ p, RawPath.Writes r p → ¬ p.Contains s) : ¬ entriesContain es s := by
  intro hc
  obtain ⟨p, hp, hc⟩ := entriesContain_iff.mp hc
  obtain ⟨r, hr, hrp⟩ := exists_mem_of_forall₂ hw hp
  exact h r hr p hrp hc

-- by recursion on the derivations, since the value that a path inside a matcher was made from is no
-- part of the matcher

mutual

theorem RawPath.Fresh.not_contains : {r : RawPath} → r.Fresh → {p : Path} → RawPath.Writes r p →
    (v : Value) → ¬ p.Contains (.malformed v)
  | _, .text _, _, .text _, _ => id
  | _, .number _, _, .number _, _ => id
  | _, .list h, _, .list _ hw, v | _, .tuple h, _, .tuple _ hw, v | _, .dict h, _, .dict _ hw, v =>
    not_entriesContain hw fun p hp _ hpq => (h p hp).not_contains hpq v
  | _, .query _, _, .spec _, _ => id
  | _, .index _, _, .spec _, _ => id
  | _, .function h, _, .spec _, v => h.not_contains v
  | _, .callable h, _, .callable _, v => h.not_contains v

theorem Evaluator.Fresh.not_contains : {f : Evaluator} → f.Fresh → (v : Value) →
    ¬ f.Contains (.malformed v)
  | _, .matcher h, v => h.not_contains v
  | _, .plain _ _, _ => nofun

theorem Matcher.Fresh.not_contains : {m : Matcher} → m.Fresh → (v : Value) →
    ¬ m.Contains (.malformed v)
  | _, .multi hr hp, v | _, .single hr hp, v => hr.not_contains (RawPath.writes_of_toPath hp) v
  | _, .constant _, _ => id
  | _, .bind _ h, v | _, .map _ h, v | _, .parse _ _ _ h, v => fun hc =>
    hc.elim (h.not_contains v) nofun
  | _, .deepMap h hf, v => fun hc => hc.elim (h.not_contains v) (hf.not_contains v)
  | _, .flatMap h hf, v => fun hc => hc.elim (h.not_contains v) fun ⟨w, hw⟩ =>
    (hf w).not_contains v hw
  | _, .seqOr hl hr, v | _, .seqOrPath hl hr, v => fun hc =>
    hc.elim (hl.not_contains v) (hr.not_contains v)

end

/-- The grammar of paths, the first fault of what is outside of it, and the two things that a path
made from a value can be relied on for: it is what the value says, and if nothing in it was keyed by
hand then an unknown shape is reported only by a function that was handed in. A fault whose item
cannot be written is not reported as one of paths. -/
theorem RawPath.toPath_exact (r : RawPath) :
    ((∃ p, r.toPath = .ok p) ↔ r.IsPath) ∧
    (¬ r.IsPath → ∃ f, r.faults.head? = some f ∧ (f.isWritable → r.toPath = .error (.path f)) ∧
      (¬ f.isWritable → r.toPath = .error .unwritable)) ∧
    (∀ p, r.toPath = .ok p → Writes r p) ∧
    ∀ p, r.Fresh → r.toPath = .ok p → ∀ n e v, p.eval n e = .error (.path (.unknownShape v)) →
      ∃ s, (s = .function e.apply ∨ p.Contains s) ∧ s.Raises (.path (.unknownShape v)) ∧
        ∀ w, s ≠ .malformed w := by
  have hr := toPath_reports r
  refine ⟨?_, fun hn => ?_, fun p hp => writes_of_toPath hp, fun p hf hp n e v hv => ?_⟩
  · rw [← faults_eq_nil]
    cases hf : r.faults with
    | nil =>
      rw [hf] at hr
      exact iff_of_true (hr.imp fun _ h => h.1) rfl
    | cons f fs =>
      rw [hf] at hr
      exact iff_of_false (fun ⟨p, hp⟩ => nomatch hr.symm.trans hp) (List.cons_ne_nil f fs)
  · rw [← faults_eq_nil] at hn
    obtain ⟨f, fs, hf⟩ := List.exists_cons_of_ne_nil hn
    rw [hf] at hr
    refine ⟨f, by rw [hf]; rfl, fun hw => ?_, fun hw => ?_⟩
    · exact hr.trans (congrArg _ (Fault.reported_of_isWritable hw))
    · exact hr.trans (congrArg _ (Fault.reported_of_not_isWritable hw))
  · obtain ⟨s, hs, hraises⟩ := p.source_of_eval hv
    refine ⟨s, hs, hraises, ?_⟩
    rintro w rfl
    exact hs.elim nofun (hf.not_contains (writes_of_toPath hp) w)

def RawPath.nested : RawPath :=
  .dict [(.ofString "cells", .list [.text "//td", .number 2,
    .callable (.matcher (.single (.query "td")))]), (.int 3, .tuple [])]

def RawPath.flawed : RawPath :=
  .dict [(.ofString "cells", .list [.text "//td", .number (-1)]), (.bool true, .other .none)]

theorem RawPath.isPath_nested : nested.IsPath := by
  have hcells : IsPath (.list [.text "//td", .number 2,
      .callable (.matcher (.single (.query "td")))]) := by
    refine .list ?_
    simp [IsPath.text, IsPath.number, IsPath.callable]
  have hnone : IsPath (.tuple []) := .tuple (by simp)
  refine .dict ?_ ?_
  · simp [Value.ofString, Value.isKey]
  · simp [hcells, hnone]

theorem RawPath.fresh_nested : nested.Fresh := by
  have hcell : Matcher.Fresh (.single (.query "td")) := .single (.text "td") rfl
  have hcells : Fresh (.list [.text "//td", .number 2,
      .callable (.matcher (.single (.query "td")))]) := by
    refine .list ?_
    simp [Fresh.text, Fresh.number, Fresh.callable (.matcher hcell)]
  have hnone : Fresh (.tuple []) := .tuple (by simp)
  refine .dict ?_
  simp [hcells, hnone]

theorem RawPath.toPath_exact_nested :
    nested.IsPath ∧ nested.Fresh ∧ ¬ flawed.IsPath ∧
    (∃ p, nested.toPath = .ok p ∧ Writes nested p ∧
      ∀ n v, p.eval n .oneline ≠ .error (.path (.unknownShape v))) ∧
    flawed.toPath = .error (.path (.negativeIndex (-1))) := by
  have hf : ¬ flawed.IsPath := by
    rw [← faults_eq_nil]
    exact List.cons_ne_nil _ _
  refine ⟨isPath_nested, fresh_nested, hf, ?_, ?_⟩
  · obtain ⟨hok, -, hwrites, hsource⟩ := toPath_exact nested
    obtain ⟨p, hp⟩ := hok.mpr isPath_nested
    refine ⟨p, hp, hwrites p hp, fun n v hv => ?_⟩
    obtain ⟨s, hs, hraises, -⟩ := hsource p fresh_nested hp n _ v hv
    -- nothing was handed in but the extractor, which never fails
    obtain rfl | hc := hs
    · obtain ⟨w, hw⟩ := hraises
      cases hw
    · cases hp
      simp [Path.Contains, entriesContain, Evaluator.Contains, Matcher.Contains] at hc
  · obtain ⟨-, hrefused, -⟩ := toPath_exact flawed
    obtain ⟨f, hhead, he, -⟩ := hrefused hf
    cases hhead
    exact he (Number.isWritable_of_lt (by decide))

def RawPath.lengthy : RawPath := .number (-Number.writeLimit)

/-- An index that cannot be written is not reported as the negative number that it is. -/
theorem RawPath.not_toPath_reports : ¬ ∀ r : RawPath, ¬ r.IsPath →
    ∃ f, r.faults.head? = some f ∧ r.toPath = .error (.path f) := by
  intro h
  have hneg : (-Number.writeLimit : Int) < 0 := by
    have hten := Number.ten_le_writeLimit
    omega
  have hf : lengthy.faults = [.negativeIndex (-Number.writeLimit)] := if_pos hneg
  have hw : ¬ Fault.isWritable (.path (.negativeIndex (-Number.writeLimit))) := by
    simp [Fault.isWritable, PathFault.isWritable]
  have hr := toPath_reports lengthy
  rw [hf] at hr
  obtain ⟨f, -, he⟩ := h lengthy fun hp => by
    rw [← faults_eq_nil, hf] at hp
    cases hp
  have hu := hr.symm.trans he
  rw [Fault.reported_of_not_isWritable hw] at hu
  cases hu

end Quarry
