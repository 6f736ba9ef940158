import SuffixLint.Text.Basic

namespace SuffixLint

/-- A path is a text of Unicode characters. Names that are no such texts, and the lossy form in
which they would be shown, are left out. -/
structure Path where
  text : Text
deriving DecidableEq, Repr

namespace Path

def separator : Char := '/'

def here : Text := ".".toList

def above : Text := "..".toList

inductive Component where
  | root
  | current
  | parent
  | name (text : Text)
deriving DecidableEq, Repr

namespace Component

def rank : Component → Nat
  | root => 0
  | current => 1
  | parent => 2
  | name _ => 3

def text : Component → Text
  | root => [separator]
  | current => here
  | parent => above
  | name text => text

def order (a b : Component) : Ordering :=
  (compare a.rank b.rank).then (compare a.text b.text)

end Component

def isAbsolute (path : Path) : Bool := path.text.head? == some separator

def segments (path : Path) : List Text := path.text.splitOn separator

/-- Whether a segment stands for nothing where it does not come first. -/
def isIdle (segment : Text) : Bool := segment.isEmpty || segment == here

def Component.ofSegment (segment : Text) : Component :=
  if segment = above then .parent else .name segment

/-- The components of a path. Empty names are passed over, and so is the name of the current
directory except at the start of a relative path. -/
def components (path : Path) : List Component :=
  let start : List Component :=
    if path.isAbsolute then [.root]
    else if path.segments.head? = some here then [.current]
    else []
  start ++ (path.segments.filter (!isIdle ·)).map Component.ofSegment

def same (a b : Path) : Bool := a.components == b.components

def componentsOrder : List Component → List Component → Ordering :=
  List.compareLex Component.order

def le (a b : Path) : Bool := (componentsOrder a.components b.components).isLE

/-- A path taken relative to a directory; an absolute path stands for itself. -/
def join (directory path : Path) : Path :=
  if path.isAbsolute then path
  else if directory.text.isEmpty || directory.text.getLast? = some separator then
    ⟨directory.text ++ path.text⟩
  else ⟨directory.text ++ separator :: path.text⟩

def dropIdleEnd (segments : List Text) : List Text := (segments.reverse.dropWhile isIdle).reverse

/-- The directory above a path, as far as the text tells: the path without its last component. The
root and the empty path have none. -/
def parent? (path : Path) : Option Path :=
  let (head, body) : Text × List Text :=
    if path.isAbsolute then ([separator], path.segments.drop 1)
    else if path.segments.head? = some here then (here, [] :: path.segments.drop 1)
    else ([], path.segments)
  match dropIdleEnd body with
  | [] => if head = here then some ⟨[]⟩ else none
  | used => some ⟨head ++ Text.join [separator] (dropIdleEnd used.dropLast)⟩

def ofComponents (components : List Component) : Path :=
  components.foldl (fun path component => path.join ⟨component.text⟩) ⟨[]⟩

/-- The way from one list of components to another: what they share at the start is dropped, every
further step of the start is taken back, and the rest of the goal is appended. There is no way back
from the parent of an unknown directory. -/
def way (goal start : List Component) : Option (List Component) :=
  match goal, start with
  | goal, [] => some goal
  | [], start => some (start.map fun _ => .parent)
  | a :: goal', b :: start' =>
    if a = b then way goal' start'
    else if b = .parent then none
    else some (.parent :: start'.map (fun _ => .parent) ++ a :: goal')

def relative? (path directory : Path) : Option (List Component) :=
  way path.components directory.components

@[simp] theorem isAbsolute_mk_nil : isAbsolute ⟨[]⟩ = false := rfl

@[simp] theorem components_nil : components ⟨[]⟩ = [] := rfl

@[simp] theorem same_refl (path : Path) : same path path = true := by
  simp [same]

instance : Std.TransCmp Component.order :=
  inferInstanceAs (Std.TransCmp (compareLex (compareOn Component.rank) (compareOn Component.text)))

instance : Std.TransCmp componentsOrder :=
  inferInstanceAs (Std.TransCmp (List.compareLex Component.order))

theorem le_total (a b : Path) : (le a b || le b a) = true := by
  have h : componentsOrder a.components b.components =
      (componentsOrder b.components a.components).swap := Std.OrientedCmp.eq_swap
  unfold le
  rw [h]
  cases componentsOrder b.components a.components <;> rfl

theorem le_trans (a b c : Path) (hab : le a b = true) (hbc : le b c = true) : le a c = true :=
  Std.TransCmp.isLE_trans hab hbc

end Path
end SuffixLint
