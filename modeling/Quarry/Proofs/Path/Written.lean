import Quarry.Matcher.Build
import Quarry.Proofs.Outcome

namespace Quarry

variable {α β : Type}

/-- The result has a property, or else the first of some faults is reported. -/
def Outcome.Reports (x : Outcome α) (fs : List PathFault) (P : α → Prop) : Prop :=
  match fs with
  | [] => ∃ a, x = .ok a ∧ P a
  | f :: _ => x = .error (Fault.path f).reported

namespace Outcome.Reports

variable {x : Outcome α} {fs gs : List PathFault} {P : α → Prop} {Q : β → Prop}

theorem bind {g : α → Outcome β} (hx : Reports x fs P) (hg : ∀ a, P a → Reports (g a) gs Q) :
    Reports (x >>= g) (fs ++ gs) Q := by
  cases fs with
  | nil =>
    obtain ⟨a, rfl, ha⟩ := hx
    exact hg a ha
  | cons f fs =>
    obtain rfl : x = .error (Fault.path f).reported := hx
    rfl

theorem bind_ok {g : α → β} (hx : Reports x fs P) (hg : ∀ a, P a → Q (g a)) :
    Reports (x >>= fun a => .ok (g a)) fs Q := by
  have hok : ∀ a, P a → Reports (.ok (g a)) [] Q := fun a ha => ⟨g a, rfl, hg a ha⟩
  have h := hx.bind hok
  rwa [List.append_nil] at h

end Outcome.Reports

def Value.isKey : Value → Bool
  | .str _ _ | .int _ => true
  | _ => false

def keyFaults (k : Value) : List PathFault := if k.isKey then [] else [.keyKind k]

theorem checkKey_reports (k : Value) :
    Outcome.Reports (checkKey k) (keyFaults k) fun _ => True := by
  cases k <;> first | exact ⟨_, rfl, trivial⟩ | rfl

namespace RawPath

mutual

/-- Everything in a written value that belongs into no path, from left to right: a key comes before
what stands under it. -/
def faults : RawPath → List PathFault
  | .number i => if i < 0 then [.negativeIndex i] else []
  | .list ps | .tuple ps => allFaults ps
  | .dict es => entryFaults es
  | .other v => [.unknownShape v]
  | .text _ | .spec _ | .callable _ => []

def allFaults : List RawPath → List PathFault
  | [] => []
  | p :: ps => p.faults ++ allFaults ps

def entryFaults : List (Value × RawPath) → List PathFault
  | [] => []
  | (k, p) :: es => keyFaults k ++ (p.faults ++ entryFaults es)

end

inductive IsPath : RawPath → Prop
  | text (s : String) : IsPath (.text s)
  | number {i : Int} (h : 0 ≤ i) : IsPath (.number i)
  | list {ps : List RawPath} (h : ∀ p ∈ ps, IsPath p) : IsPath (.list ps)
  | tuple {ps : List RawPath} (h : ∀ p ∈ ps, IsPath p) : IsPath (.tuple ps)
  | dict {es : List (Value × RawPath)} (hk : ∀ a ∈ es, a.1.isKey) (h : ∀ a ∈ es, IsPath a.2) :
      IsPath (.dict es)
  | spec (p : Path) : IsPath (.spec p)
  | callable (f : Evaluator) : IsPath (.callable f)

/-- The path that a value writes: members of a list under their positions, entries of a mapping
under their keys, in order, and a path that was made before as it is. -/
inductive Writes : RawPath → Path → Prop
  | text (s : String) : Writes (.text s) (.query s)
  | number (i : Nat) : Writes (.number i) (.index i)
  | list {ps : List RawPath} {fs : List (Value × Path)}
      (hk : fs.map Prod.fst = (List.range ps.length).map fun i => .int i)
      (h : List.Forall₂ Writes ps (fs.map Prod.snd)) : Writes (.list ps) (.keyed fs true)
  | tuple {ps : List RawPath} {fs : List (Value × Path)}
      (hk : fs.map Prod.fst = (List.range ps.length).map fun i => .int i)
      (h : List.Forall₂ Writes ps (fs.map Prod.snd)) : Writes (.tuple ps) (.keyed fs true)
  | dict {es : List (Value × RawPath)} {fs : List (Value × Path)}
      (hk : fs.map Prod.fst = es.map Prod.fst)
      (h : List.Forall₂ Writes (es.map Prod.snd) (fs.map Prod.snd)) :
      Writes (.dict es) (.keyed fs false)
  | spec (p : Path) : Writes (.spec p) p
  | callable (f : Evaluator) : Writes (.callable f) (.function f)

mutual

theorem toPath_reports : (r : RawPath) → Outcome.Reports r.toPath r.faults (Writes r)
  | .text s => ⟨_, rfl, .text s⟩
  | .number i => by
    rw [toPath, faults, Path.ofIndex]
    split
    · rfl
    · obtain ⟨n, rfl⟩ := Int.eq_ofNat_of_zero_le (Int.not_lt.mp ‹_›)
      exact ⟨_, rfl, .number n⟩
  | .list ps => by
    rw [toPath, faults]
    refine (itemsToPaths_reports 0 ps).bind_ok fun _ h => .list ?_ h.2
    rw [h.1, List.range_eq_range']
  | .tuple ps => by
    rw [toPath, faults]
    refine (itemsToPaths_reports 0 ps).bind_ok fun _ h => .tuple ?_ h.2
    rw [h.1, List.range_eq_range']
  | .dict es => by
    rw [toPath, faults]
    exact (entriesToPaths_reports es).bind_ok fun _ h => .dict h.1 h.2
  | .spec p => ⟨_, rfl, .spec p⟩
  | .callable f => ⟨_, rfl, .callable f⟩
  | .other v => rfl

theorem itemsToPaths_reports : (i : Nat) → (ps : List RawPath) →
    Outcome.Reports (itemsToPaths i ps) (allFaults ps) fun fs =>
      fs.map Prod.fst = (List.range' i ps.length).map (fun j => .int j) ∧
        List.Forall₂ Writes ps (fs.map Prod.snd)
  | _, [] => ⟨_, rfl, rfl, .nil⟩
  | i, p :: ps => by
    rw [itemsToPaths, allFaults]
    exact (toPath_reports p).bind fun q hq =>
      (itemsToPaths_reports (i + 1) ps).bind_ok fun _ h =>
        ⟨by simp only [List.map_cons, h.1, List.length_cons, List.range'_succ], .cons hq h.2⟩

theorem entriesToPaths_reports : (es : List (Value × RawPath)) →
    Outcome.Reports (entriesToPaths es) (entryFaults es) fun fs =>
      fs.map Prod.fst = es.map Prod.fst ∧
        List.Forall₂ Writes (es.map Prod.snd) (fs.map Prod.snd)
  | [] => ⟨_, rfl, rfl, .nil⟩
  | (k, p) :: es => by
    rw [entriesToPaths, entryFaults]
    exact (checkKey_reports k).bind fun _ _ => (toPath_reports p).bind fun q hq =>
      (entriesToPaths_reports es).bind_ok fun _ h => ⟨congrArg (k :: ·) h.1, .cons hq h.2⟩

end

mutual

theorem faults_eq_nil : (r : RawPath) → (r.faults = [] ↔ r.IsPath)
  | .text s => iff_of_true rfl (.text s)
  | .number i => by
    rw [faults]
    split
    · exact iff_of_false (List.cons_ne_nil _ _) fun h => by cases h; omega
    · exact iff_of_true rfl (.number (Int.not_lt.mp ‹_›))
  | .list ps => by
    rw [faults, allFaults_eq_nil]
    exact ⟨.list, fun | .list h => h⟩
  | .tuple ps => by
    rw [faults, allFaults_eq_nil]
    exact ⟨.tuple, fun | .tuple h => h⟩
  | .dict es => by
    rw [faults, entryFaults_eq_nil]
    exact ⟨fun h => .dict (fun a ha => (h a ha).1) fun a ha => (h a ha).2,
      fun | .dict hk h => fun a ha => ⟨hk a ha, h a ha⟩⟩
  | .spec p => iff_of_true rfl (.spec p)
  | .callable f => iff_of_true rfl (.callable f)
  | .other v => iff_of_false (List.cons_ne_nil _ _) nofun

theorem allFaults_eq_nil : (ps : List RawPath) → (allFaults ps = [] ↔ ∀ p ∈ ps, p.IsPath)
  | [] => iff_of_true rfl nofun
  | p :: ps => by
    rw [allFaults, List.append_eq_nil_iff, faults_eq_nil p, allFaults_eq_nil ps,
      List.forall_mem_cons]

theorem entryFaults_eq_nil : (es : List (Value × RawPath)) →
    (entryFaults es = [] ↔ ∀ a ∈ es, a.1.isKey ∧ a.2.IsPath)
  | [] => iff_of_true rfl nofun
  | (k, p) :: es => by
    have hk : keyFaults k = [] ↔ k.isKey := by simp [keyFaults]
    rw [entryFaults, List.append_eq_nil_iff, List.append_eq_nil_iff, hk, faults_eq_nil p,
      entryFaults_eq_nil es, List.forall_mem_cons, and_assoc]

end

end RawPath

end Quarry
