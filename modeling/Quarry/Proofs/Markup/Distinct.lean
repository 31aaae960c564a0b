import Quarry.Proofs.Markup.Parse
import Quarry.Proofs.Tree.Distinct

namespace Quarry.Markup

namespace Xml

variable {config : Config} {d : Declarations} {r r' : Reading}

theorem resolveAttributes?_nodup {bs : List Binding} {as : List (String × List Char × Bool)}
    {rs : List Attribute} (h : resolveAttributes? bs as = some rs) :
    (rs.map (·.name.expanded)).Nodup := by
  obtain ⟨resolved, -, h⟩ := Option.bind_eq_some_iff.mp h
  split at h
  · rename_i hn
    cases h
    exact hn
  · cases h

theorem Reading.markMixed_growth (r : Reading) : r.markMixed.growth = r.growth := by
  unfold Reading.markMixed
  split
  · split <;> rfl
  · rfl

theorem readText_distinct {s : List Char} {next : Option Token} (h : r.growth.Distinct)
    (hr : readText config d r s next = some r') : r'.growth.Distinct := by
  have ha : (r.addText s).growth.Distinct := h.addText _
  simp only [readText] at hr
  split at hr
  · split at hr <;> cases hr
    exact h
  · split at hr
    · cases hr
      exact ha
    · split at hr <;> cases hr
      · exact h
      · rw [Reading.markMixed_growth]
        exact ha

theorem readStartTag_distinct {name : String} {given : List (String × List ValuePart)}
    {closed : Bool} (h : r.growth.Distinct)
    (hr : readStartTag config d r name given closed = some r') : r'.growth.Distinct := by
  simp only [readStartTag] at hr
  split at hr
  · cases hr
  split at hr
  · cases hr
  obtain ⟨all, -, hr⟩ := Option.bind_eq_some_iff.mp hr
  obtain ⟨⟨bound, rest⟩, -, hr⟩ := Option.bind_eq_some_iff.mp hr
  obtain ⟨n, -, hr⟩ := Option.bind_eq_some_iff.mp hr
  obtain ⟨attributes, has, hr⟩ := Option.bind_eq_some_iff.mp hr
  have hp : (r.growth.push (.element n attributes bound)).Distinct :=
    h.push (resolveAttributes?_nodup has)
  cases hr
  split
  · exact hp.pop
  · exact hp

theorem readEndTag_distinct {name : String} (h : r.growth.Distinct)
    (hr : readEndTag r name = some r') : r'.growth.Distinct := by
  unfold readEndTag at hr
  split at hr
  · split at hr <;> cases hr
    exact h.pop
  · cases hr

theorem readToken_distinct {t : Token} {next : Option Token} (h : r.growth.Distinct)
    (hr : readToken config d r t next = some r') : r'.growth.Distinct := by
  cases t with
  | text s => exact readText_distinct h hr
  | literal s | quoted s =>
    simp only [readToken] at hr
    split at hr <;> cases hr
    exact h.addText _
  | startTag name given closed => exact readStartTag_distinct h hr
  | endTag name => exact readEndTag_distinct h hr
  | comment s =>
    simp only [readToken] at hr
    split at hr <;> cases hr
    · exact h
    · exact h.addItem (.mk trivial nofun)
  | instruction target s =>
    cases hr
    exact h.addItem (.mk trivial nofun)
  | reference name =>
    obtain ⟨ts, -, hr⟩ := Option.bind_eq_some_iff.mp hr
    split at hr <;> cases hr
    exact h.addItem (.mk trivial nofun)

theorem readTokens_distinct {ts : List Token} (h : r.growth.Distinct)
    (hr : readTokens config d r ts = some r') : r'.growth.Distinct := by
  induction ts generalizing r with
  | nil =>
    cases hr
    exact h
  | cons t ts ih =>
    obtain ⟨s, hs, hr⟩ := Option.bind_eq_some_iff.mp hr
    exact ih (readToken_distinct h hs) hr

theorem documentOf?_distinct {ts : List Token} {doc : Document}
    (h : documentOf? config d ts = some doc) : doc.Distinct := by
  have hd : ∀ ts, ((readTokens config d ⟨.empty, []⟩ ts).bind fun r =>
      if r.scopes.isEmpty then r.growth.document? else none) = some doc → doc.Distinct := by
    intro ts h
    obtain ⟨r, hr, h⟩ := Option.bind_eq_some_iff.mp h
    split at h
    · exact (readTokens_distinct .empty hr).document? h
    · cases h
  simp only [documentOf?] at h
  split at h
  · obtain ⟨ts, -, h⟩ := Option.bind_eq_some_iff.mp h
    exact hd ts h
  · exact hd ts h

theorem parse?_distinct {given : Option Encoding} {bs : List UInt8} {doc : Document}
    (h : parse? config given bs = some doc) : doc.Distinct := by
  obtain ⟨e, -, h⟩ := Option.bind_eq_some_iff.mp h
  obtain ⟨s, -, h⟩ := Option.bind_eq_some_iff.mp h
  obtain ⟨⟨x, rest⟩, -, h⟩ := Option.bind_eq_some_iff.mp h
  obtain ⟨⟨before, d, rest⟩, -, h⟩ := Option.bind_eq_some_iff.mp h
  obtain ⟨ts, -, h⟩ := Option.bind_eq_some_iff.mp h
  exact documentOf?_distinct h

end Xml

namespace Html

def Token.Distinct : Token → Prop
  | .startTag _ as _ => (as.map Prod.fst).Nodup
  | _ => True

theorem splitAttributes_nodup (fuel : Nat) (s : List Char) :
    ((splitAttributes fuel s).1.map Prod.fst).Nodup := by
  induction fuel generalizing s with
  | zero => exact .nil
  | succ fuel ih =>
    rw [splitAttributes]
    split
    · exact .nil
    · exact .nil
    · exact .nil
    · exact ih _
    · rename_i c t _ _ _ _
      -- the attributes behind have lost those of this name
      have hn := ih (splitAttribute c t).2
      refine List.nodup_cons.mpr ⟨fun hm => ?_, hn.sublist (List.filter_sublist.map Prod.fst)⟩
      obtain ⟨b, hb, he⟩ := List.mem_map.mp hm
      simpa [he] using (List.mem_filter.mp hb).2

theorem readContent_distinct (name : String) (s : List Char) :
    ∀ t ∈ (readContent name s).1, t.Distinct := by
  intro t ht
  unfold readContent at ht
  split at ht <;> simp at ht <;> obtain ⟨-, rfl⟩ := ht <;> trivial

theorem splitToken_distinct (s : List Char) : ∀ t ∈ (splitToken s).1, t.Distinct := by
  unfold splitToken
  split
  · simp
  · split <;> simp [Token.Distinct]
  · simp [Token.Distinct]
  · simp only
    split <;> simp [Token.Distinct]
  · simp [Token.Distinct]
  · split
    · simp only
      refine List.forall_mem_cons.mpr ⟨splitAttributes_nodup _ _, ?_⟩
      split
      · simp
      · exact readContent_distinct _ _
    · simp [Token.Distinct]
  · simp [Token.Distinct]

theorem scan_distinct (fuel : Nat) (s : List Char) : ∀ t ∈ scan fuel s, t.Distinct := by
  induction fuel generalizing s with
  | zero => cases s <;> simp [scan]
  | succ fuel ih =>
    cases s with
    | nil => simp [scan]
    | cons c s =>
      rw [scan]
      · intro t ht
        rcases List.mem_append.mp ht with ht | ht
        · exact splitToken_distinct _ t ht
        · exact ih _ t ht
      · simp

namespace Reading

variable {config : Config} {r : Reading}

theorem ite_distinct (c : Prop) [Decidable c] {a b : Reading} (ha : a.growth.Distinct)
    (hb : b.growth.Distinct) : (if c then a else b).growth.Distinct := by
  split
  · exact ha
  · exact hb

theorem push_distinct (h : r.growth.Distinct) (name : String) {as : List Attribute}
    (has : (as.map (·.name.expanded)).Nodup) : (r.push config name as).growth.Distinct := by
  unfold push
  split
  · exact h
  · split
    · exact h
    · exact h.push has

theorem closeFor_distinct (newcomer : String) (os : List OpenItem) (h : r.growth.Distinct) :
    (closeFor newcomer os r).growth.Distinct := by
  induction os generalizing r with
  | nil => exact h
  | cons o os ih =>
    rw [closeFor]
    split
    · exact ih h.pop
    · exact h

theorem imply_distinct (h : r.growth.Distinct) (newcomer : String) :
    (r.imply config newcomer).growth.Distinct := by
  -- whatever is supplied has no attributes
  have hp : ∀ {r : Reading} (name : String), r.growth.Distinct →
      (r.push config name []).growth.Distinct := fun name h => push_distinct h name .nil
  have hr := ite_distinct r.names.isEmpty (hp "html" h) h
  simp only [imply]
  refine ite_distinct _ h (ite_distinct _ hr (ite_distinct _ ?_ (ite_distinct _ hr ?_)))
  · exact ite_distinct _ (hp "head" hr) hr
  · exact ite_distinct _ hr (hp "body" hr)

theorem addText_distinct (h : r.growth.Distinct) (s : List Char) :
    (r.addText s).growth.Distinct := by
  unfold addText
  split
  · exact h
  · exact h.addText _

theorem readText_distinct (h : r.growth.Distinct) (s : List Char) (last : Bool) :
    (r.readText config s last).growth.Distinct := by
  have hb : ∀ blanks, (if config.removeBlankText then r else r.addText blanks).growth.Distinct :=
    fun blanks => ite_distinct _ h (addText_distinct h blanks)
  have hi : ∀ {r : Reading} (outside : Bool), r.growth.Distinct →
      (if outside then
        (if r.current? = some "head" then r.autoClose "p" else r).imply config "p"
      else r).growth.Distinct := fun outside h =>
    ite_distinct _ (imply_distinct (ite_distinct _ (closeFor_distinct _ _ h) h) "p") h
  simp only [readText]
  exact ite_distinct _ (hb _)
    (ite_distinct _ (hi _ (hb _)) (addText_distinct (hi _ (hb _)) _))

theorem popMany_distinct (n : Nat) (h : r.growth.Distinct) : (popMany n r).growth.Distinct := by
  induction n generalizing r with
  | zero => exact h
  | succ n ih => exact ih h.pop

theorem readStartTag_distinct (h : r.growth.Distinct) (name : String)
    {as : List (String × Option String)} (has : (as.map Prod.fst).Nodup) (closed : Bool) :
    (r.readStartTag config name as closed).growth.Distinct := by
  have hr : ((r.autoClose name).imply config name).growth.Distinct :=
    imply_distinct (closeFor_distinct _ _ h) name
  have hn : ((as.map (attributeOf name)).map (·.name.expanded)).Nodup := by
    rw [List.map_map]
    exact has
  simp only [readStartTag]
  split
  · exact hr
  · split
    · exact (push_distinct hr name hn).pop
    · exact push_distinct hr name hn

theorem readEndTag_distinct (h : r.growth.Distinct) (name : String) :
    (r.readEndTag name).growth.Distinct := by
  unfold readEndTag
  split
  · exact h
  · split
    · exact popMany_distinct _ h
    · exact h

theorem readToken_distinct (h : r.growth.Distinct) {t : Token} (ht : t.Distinct) (last : Bool) :
    (r.readToken config t last).growth.Distinct := by
  unfold readToken
  split
  · exact h
  cases t with
  | startTag name as closed => exact readStartTag_distinct h name ht closed
  | endTag name => exact readEndTag_distinct h name
  | text s => exact readText_distinct h s last
  | raw s => exact addText_distinct h s
  | comment s =>
    simp only
    split
    · exact h
    · exact h.addItem (.mk trivial nofun)
  | doctype p =>
    simp only
    split <;> exact h

theorem readAll_distinct (h : r.growth.Distinct) {ts : List Token} (hts : ∀ t ∈ ts, t.Distinct) :
    (r.readAll config ts).growth.Distinct := by
  induction ts generalizing r with
  | nil => exact h
  | cons t ts ih =>
    obtain ⟨ht, hts⟩ := List.forall_mem_cons.mp hts
    exact ih (readToken_distinct h ht _) hts

end Reading

theorem emptyDocument_distinct : emptyDocument.Distinct := by
  intro i hi
  obtain rfl := List.mem_singleton.mp hi
  exact .mk .nil nofun

theorem documentOf_distinct (config : Config) {ts : List Token} (h : ∀ t ∈ ts, t.Distinct) :
    (documentOf config ts).Distinct := by
  unfold documentOf
  cases hd : (Reading.start.readAll config ts).growth.document? with
  | none => exact emptyDocument_distinct
  | some d => exact (Reading.readAll_distinct .empty h).document? hd

end Html

theorem parseHtml_distinct {v : Value} {config : Config} {d : Document}
    (h : parseHtml v config = .ok d) : d.Distinct := by
  have hin : ∀ given, htmlIn v config given = .ok d → d.Distinct := by
    intro given h
    unfold htmlIn at h
    split at h
    · cases h
      exact Html.emptyDocument_distinct
    · obtain ⟨bs, -, h⟩ := Outcome.bind_eq_ok.mp h
      cases h
      exact Html.documentOf_distinct config (Html.scan_distinct _ _)
  obtain hp | hp := parseHtml_eq v config
  · exact hin _ (hp.symm.trans h)
  · obtain ⟨given, -, h⟩ := Outcome.bind_eq_ok.mp (hp.symm.trans h)
    exact hin given h

theorem parseXml_distinct {v : Value} {config : Config} {d : Document}
    (h : parseXml v config = .ok d) : d.Distinct := by
  obtain ⟨given, -, h⟩ := Outcome.bind_eq_ok.mp h
  obtain ⟨bs, -, h⟩ := Outcome.bind_eq_ok.mp h
  split at h
  · rename_i hd
    cases h
    exact Xml.parse?_distinct hd
  · cases h

theorem parse_distinct {markup : Markup} {v : Value} {config : Config} {n : Node}
    (h : markup.parse v config = .ok (.node n)) : n.document.Distinct := by
  cases markup with
  | html =>
    obtain ⟨d, hd, h⟩ := Outcome.bind_eq_ok.mp h
    cases h
    exact parseHtml_distinct hd
  | xml =>
    obtain ⟨d, hd, h⟩ := Outcome.bind_eq_ok.mp h
    cases h
    exact parseXml_distinct hd

end Quarry.Markup
