import PositionMap.Number.Exact
import PositionMap.Scene

/-!
# The page

What the map finds around it: a window and a document or none, elements by their ids, and a queue
of frame requests. A request names the map that made it, so that the frame of a map that is gone
finds nobody.
-/

namespace PositionMap

inductive ContextAnswer
  | drawing
  | missing
  | refused
  | foreign
  deriving DecidableEq

structure Element where
  isCanvas : Bool
  context : ContextAnswer
  /-- Width and height of the element that holds this one. -/
  container? : Option (Float × Float)

structure Request where
  id : Nat
  owner : Nat

structure Page where
  window : Bool
  document : Bool
  /-- Device pixels in a pixel of the page. -/
  ratio : Float
  /-- The message with which frame requests fail. -/
  requestError? : Option String
  /-- The message with which cancellations of frame requests fail. -/
  cancelError? : Option String
  elements : List (String × Element)
  /-- The frame requests that are waiting, oldest first. -/
  queue : List Request
  nextId : Nat

namespace Page

def blank : Page := ⟨true, true, 1, none, none, [], [], 1⟩

def element? (page : Page) (id : String) : Option Element :=
  page.elements.lookup id

def setElement (page : Page) (id : String) (element : Element) : Page :=
  { page with elements := (id, element) :: page.elements }

/-- The size of the element that holds the given one, if there is a window to ask. -/
def container? (page : Page) (id : String) : Option (Float × Float) :=
  if page.window then (page.element? id).bind Element.container? else none

/-- The measurement of a container. A device pixel is never larger than a pixel of the page. -/
def measurement (page : Page) (size : Float × Float) : Measurement :=
  ⟨size.1, size.2, Number.greater page.ratio 1⟩

def request (page : Page) (owner : Nat) : Page :=
  { page with queue := page.queue ++ [⟨page.nextId, owner⟩], nextId := page.nextId + 1 }

def cancel (page : Page) (id : Nat) : Page :=
  { page with queue := page.queue.filter fun request => request.id != id }

def canvasProblem? (page : Page) (id : String) : Option String :=
  if !page.window then some "No window"
  else if !page.document then some "No document"
  else
    match page.element? id with
    | none => some "No canvas element found"
    | some element => if element.isCanvas then none else some "Element is not a canvas"

def draws (page : Page) (id : String) : Bool :=
  match page.element? id with
  | some element => element.context == .drawing
  | none => false

/-- New values for some of the page's settings. -/
structure Change where
  window : Option Bool
  document : Option Bool
  ratio : Option Float
  requestError? : Option (Option String)
  cancelError? : Option (Option String)
  elements : List (String × Element)

def change (page : Page) (c : Change) : Page :=
  let page :=
    { page with
      window := c.window.getD page.window
      document := c.document.getD page.document
      ratio := c.ratio.getD page.ratio
      requestError? := c.requestError?.getD page.requestError?
      cancelError? := c.cancelError?.getD page.cancelError? }
  c.elements.foldl (fun page (id, element) => page.setElement id element) page

end Page

end PositionMap
