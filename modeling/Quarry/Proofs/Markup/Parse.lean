import Quarry.Markup
import Quarry.Proofs.Outcome

namespace Quarry.Markup

variable {v : Value} {f : PathFault}

def htmlIn (v : Value) (config : Config) (given : Option Encoding) : Outcome Document :=
  if v.length? = some 0 then .ok Html.emptyDocument
  else do return Html.parse config given (← bytesOf v)

theorem parseHtml_eq (v : Value) (config : Config) :
    parseHtml v config = htmlIn v config (some .utf8) ∨
      parseHtml v config = encodingNamed config.encoding >>= htmlIn v config := by
  simp only [parseHtml]
  split
  · exact .inl rfl
  · exact .inr rfl

theorem encodingNamed_ne_path (name : Option String) : encodingNamed name ≠ .error (.path f) := by
  unfold encodingNamed
  split
  · nofun
  · nofun
  · split <;> nofun

theorem bytesOf_ne_path : bytesOf v ≠ .error (.path f) := by
  unfold bytesOf
  split
  · nofun
  · nofun
  · split <;> nofun

theorem parseHtml_ne_path (config : Config) : parseHtml v config ≠ .error (.path f) := by
  have hin : ∀ given, htmlIn v config given ≠ .error (.path f) := by
    intro given
    unfold htmlIn
    split
    · nofun
    · exact Outcome.bind_ne_error bytesOf_ne_path nofun
  obtain h | h := parseHtml_eq v config
  · rw [h]
    exact hin _
  · rw [h]
    exact Outcome.bind_ne_error (encodingNamed_ne_path _) hin

theorem parseXml_ne_path (config : Config) : parseXml v config ≠ .error (.path f) := by
  refine Outcome.bind_ne_error (encodingNamed_ne_path _) fun given =>
    Outcome.bind_ne_error bytesOf_ne_path fun bs => ?_
  split <;> nofun

theorem parse_ne_path (markup : Markup) (config : Config) :
    markup.parse v config ≠ .error (.path f) := by
  cases markup with
  | html => exact Outcome.bind_ne_error (parseHtml_ne_path config) nofun
  | xml => exact Outcome.bind_ne_error (parseXml_ne_path config) nofun

end Quarry.Markup
