namespace ScreenFlow.Yaml

/-! A page of YAML text under construction, with what the next piece of text depends on. -/

/-- The text written so far, latest character first. -/
structure Page where
  reversed : List Char
  column : Nat
  spaced : Bool
  fresh : Bool
  anchored : List Nat
  deriving DecidableEq, Repr

def pageWidth : Nat := 80

namespace Page

def empty : Page := ⟨[], 0, true, true, []⟩

def text (page : Page) : String := String.ofList page.reversed.reverse

def put (characters : List Char) (page : Page) : Page :=
  { page with
    reversed := characters.reverse ++ page.reversed
    column := page.column + characters.length }

def taken (page : Page) : Page := { page with spaced := false, fresh := false }

def lineBreak (page : Page) : Page :=
  { page with reversed := '\n' :: page.reversed, column := 0, spaced := true, fresh := true }

/-- Go on at a column, on a new line unless this one has not come so far yet. -/
def indentTo (indent : Nat) (page : Page) : Page :=
  let page :=
    if !page.fresh || page.column > indent || (page.column = indent && !page.spaced) then
      page.lineBreak
    else page
  if page.column < indent then
    { page.put (List.replicate (indent - page.column) ' ') with spaced := true }
  else page

/-- Write an indicator. `apart` asks for a blank in front of it; `spaced` tells that none is needed
after it, and `fresh` that the line can still be indented further. -/
def indicator (content : List Char) (apart spaced fresh : Bool) (page : Page) : Page :=
  let page := page.put (if page.spaced || !apart then content else ' ' :: content)
  { page with spaced, fresh := page.fresh && fresh }

def anchor (label : Nat) (page : Page) : Page :=
  { page with anchored := label :: page.anchored }

end Page

end ScreenFlow.Yaml
