namespace Quarry.Markup.Html

def emptyElements : List String :=
  ["area", "base", "basefont", "br", "col", "frame", "hr", "img", "input", "isindex", "link",
    "meta", "param"]

def flagAttributes : List String :=
  ["checked", "compact", "declare", "defer", "disabled", "ismap", "multiple", "nohref", "noresize",
    "noshade", "nowrap", "readonly", "selected"]

def headElements : List String := ["script", "style", "meta", "link", "title", "base"]

def frameElements : List String := ["noframes", "frame", "frameset"]

def headings : List String := ["h1", "h2", "h3", "h4", "h5", "h6"]

def preformatted : List String := ["dd", "dl", "dt", "fieldset", "form", "li", "table", "ul"]

/-- The start tags that close an open element. -/
def closers (opened : String) : List String :=
  match opened with
  | "a" => ["a", "fieldset", "table", "td", "th"]
  | "address" => ["dd", "dl", "dt", "form", "li", "ul"]
  | "b" => ["center", "p", "td", "th"]
  | "big" => ["p"]
  | "caption" => ["col", "colgroup", "tbody", "tfoot", "thead", "tr"]
  | "col" => ["col", "colgroup", "tbody", "tfoot", "thead", "tr"]
  | "colgroup" => ["colgroup", "tbody", "tfoot", "thead", "tr"]
  | "dd" => ["dt"]
  | "dir" => ["dd", "dl", "dt", "form", "ul"]
  | "dl" => ["form", "li"]
  | "dt" => ["dd", "dl"]
  | "font" => ["center", "td", "th"]
  | "form" => ["form"]
  | "h1" | "h2" | "h3" | "h4" | "h5" | "h6" => ["fieldset", "form", "li", "p", "table"]
  | "head" =>
    ["a", "abbr", "acronym", "address", "b", "bdo", "big", "blockquote", "body", "br", "center",
      "cite", "code", "dd", "dfn", "dir", "div", "dl", "dt", "em", "fieldset", "font", "form",
      "frameset"] ++ headings ++
    ["hr", "i", "iframe", "img", "kbd", "li", "listing", "map", "menu", "ol", "p", "pre", "q", "s",
      "samp", "small", "span", "strike", "strong", "sub", "sup", "table", "tt", "u", "ul", "var",
      "xmp"]
  | "hr" => ["form"]
  | "i" => ["center", "p"]
  | "legend" => ["fieldset"]
  | "li" => ["li"]
  | "link" => ["body", "frameset"]
  | "listing" | "pre" | "xmp" => preformatted
  | "menu" => ["dd", "dl", "dt", "form", "ul"]
  | "ol" => ["form", "ul"]
  | "option" => ["optgroup", "option"]
  | "p" =>
    ["address", "blockquote", "body", "caption", "center", "col", "colgroup", "dd", "dir", "div",
      "dl", "dt", "fieldset", "form", "frameset"] ++ headings ++
    ["head", "hr", "li", "listing", "menu", "multicol", "ol", "p", "pre", "table", "tbody", "td",
      "tfoot", "th", "title", "tr", "ul", "xmp"]
  | "s" | "small" | "strike" | "tt" => ["p"]
  | "script" => ["noscript"]
  | "span" => ["td", "th"]
  | "style" | "title" => ["body", "frameset"]
  | "tbody" => ["tbody", "tfoot"]
  | "td" | "th" => ["tbody", "td", "tfoot", "th", "tr"]
  | "tfoot" => ["tbody"]
  | "thead" => ["tbody", "tfoot"]
  | "tr" => ["tbody", "tfoot", "tr"]
  | "u" => ["p", "td", "th"]
  | "ul" => ["address", "form", "menu", "ol", "pre"]
  | _ => []

/-- An element is not closed by the end tag of one that weighs less. -/
def weight (name : String) : Nat :=
  match name with
  | "div" => 150
  | "td" | "th" => 160
  | "tr" => 170
  | "thead" | "tbody" | "tfoot" => 180
  | "table" => 190
  | "head" | "body" => 200
  | "html" => 220
  | _ => 100

/-- Elements in which, and behind which, blanks are text. -/
def textElements : List String :=
  ["a", "abbr", "acronym", "address", "applet", "b", "bdo", "big", "blockquote", "button",
    "caption", "center", "cite", "code", "dd", "del", "dfn", "div", "dt", "em",
    "fieldset", "font", "form"] ++
  headings ++
  ["i", "iframe", "ins", "kbd", "label", "legend", "li", "noframes", "noscript", "object", "option",
    "p", "pre", "q", "s", "samp", "small", "span", "strike", "strong", "sub", "sup", "td",
    "textarea", "th", "title", "tt", "u", "var"]

/-- Old document types under which blanks directly in the body are layout. -/
def strictTypes : List String := ["-//w3c//dtd html 4.01//en", "-//w3c//dtd html 4//en"]

end Quarry.Markup.Html
