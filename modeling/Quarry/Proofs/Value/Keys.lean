import Mathlib.Data.List.Pairwise
import Quarry.Value.Same

namespace Quarry.Value

def isText (k : String) : Value → Bool
  | .str s _ => s = k
  | _ => false

@[simp]
theorem same_str (v : Value) (s : String) (o : Origin) : v.same (.str s o) = v.isText s := by
  cases v <;> rfl

/-- No text is two of the keys. -/
def TextsDiffer (ks : List Value) : Prop := ks.Pairwise fun k l => ∀ s, k.isText s → ¬ l.isText s

def distinct (ks : List Value) : List Value := ks.eraseDupsBy fun k l => l.same k

theorem keys_setEntry (k v : Value) (es : List (Value × Value)) :
    (setEntry k v es).map Prod.fst =
      if (es.map Prod.fst).any (same · k) then es.map Prod.fst else es.map Prod.fst ++ [k] := by
  induction es with
  | nil => rfl
  | cons e es ih =>
    obtain ⟨l, w⟩ := e
    by_cases h : same l k
    · simp [setEntry, h]
    · simp only [setEntry, h, Bool.false_eq_true, if_false, List.map_cons, ih, List.any_cons,
        Bool.false_or]
      split <;> rfl

theorem keys_ofEntries (es : List (Value × Value)) :
    ∃ fs, ofEntries es = .dict fs ∧ fs.map Prod.fst = distinct (es.map Prod.fst) := by
  have h : ∀ acc : List (Value × Value),
      (es.foldl (fun acc e => setEntry e.1 e.2 acc) acc).map Prod.fst =
        List.eraseDupsBy.loop (fun k l => l.same k) (es.map Prod.fst)
          (acc.map Prod.fst).reverse := by
    induction es with
    | nil => intro acc; simp [List.eraseDupsBy.loop]
    | cons e es ih =>
      intro acc
      rw [List.foldl_cons, ih, keys_setEntry, List.map_cons, List.eraseDupsBy.loop,
        List.any_reverse]
      cases (acc.map Prod.fst).any (same · e.1) <;> simp
  exact ⟨_, rfl, h []⟩

theorem TextsDiffer.perm {ks ls : List Value} (h : TextsDiffer ks) (hp : ks.Perm ls) :
    TextsDiffer ls :=
  hp.pairwise h fun hkl s hl hk => hkl s hk hl

end Quarry.Value
