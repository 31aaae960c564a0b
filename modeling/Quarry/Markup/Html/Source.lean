import Quarry.Markup.Encoding
import Quarry.Markup.Html.Reading

namespace Quarry.Markup.Html

def charsetOf (attributes : List (String × Option String)) : Option String :=
  match attributes.lookup "charset", attributes.lookup "content" with
  | some (some c), _ => some c
  | _, some (some c) => do
    let (_, r) ← splitBefore? "charset".toList (lowerAscii c.toList)
    match skipHtmlBlanks r with
    | '=' :: t =>
      let word := (skipHtmlBlanks t).takeWhile fun c => !isHtmlBlank c && c != ';'
      return String.ofList (word.filter fun c => c != '"' && c != '\'')
    | _ => none
  | _, _ => none

def declared? (bs : List UInt8) : Option Encoding :=
  let plain := bs.map fun b => Char.ofNat b.toNat
  (tokens plain).findSome? fun
    | .startTag "meta" attributes _ => (charsetOf attributes).bind Encoding.find?
    | _ => none

def western : Encoding := (Encoding.find? "windows-1252").getD .latin1

def encodingOf (given : Option Encoding) (bs : List UInt8) : Encoding :=
  match given, Encoding.detect bs with
  | some e, _ | none, some e => e
  | none, none => (declared? bs).getD western

/-- A character of the text; a gap and the null character give the replacement character. -/
def shownChar (c : Option Char) : Char :=
  match c with
  | some c => if c.toNat = 0 then replacement else c
  | none => replacement

def parse (config : Config) (given : Option Encoding) (bs : List UInt8) : Document :=
  let e := encodingOf given bs
  let s := unifyLineEnds ((Encoding.withoutMark (e.decode bs)).map shownChar)
  documentOf config (tokens (s.dropWhile isHtmlBlank))

end Quarry.Markup.Html
