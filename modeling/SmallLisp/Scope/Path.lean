/-
**Scope paths.** A path is the chain of scopes in effect, from the top level to the innermost
scope. It always starts at the top level, scope `0`, so only the ids after it are stored, the
innermost first; no operation can break that.
-/

namespace SmallLisp

/-- The chain of scopes in effect. `inner` holds the ids below the top level, innermost first. -/
structure ScopePath where
  inner : List Int
  deriving DecidableEq, Repr

namespace ScopePath

/-- The id of the top-level scope. -/
def topId : Int := 0

/-- The path that holds only the top level. -/
def top : ScopePath := ⟨[]⟩

instance : Inhabited ScopePath := ⟨top⟩

/-- The path with `id` as its innermost scope. -/
def push (path : ScopePath) (id : Int) : ScopePath := ⟨id :: path.inner⟩

/-- The ids in the order in which names are looked up. -/
def innermostFirst (path : ScopePath) : List Int := path.inner ++ [topId]

/-- The ids from the top level inwards. -/
def ids (path : ScopePath) : List Int := topId :: path.inner.reverse

/-- The innermost scope, in which definitions are made. -/
def current (path : ScopePath) : Int := path.inner.headD topId

/-- The number of scopes on the path. -/
def length (path : ScopePath) : Nat := path.inner.length + 1

/-- The path with the given ids, which must start at the top level. -/
def ofIds? : List Int → Option ScopePath
  | [] => none
  | first :: rest => if first = topId then some ⟨rest.reverse⟩ else none

/-- The ids between square brackets. -/
def listText (ids : List Int) : String := "[" ++ ", ".intercalate (ids.map toString) ++ "]"

/-- The ids between parentheses; a single id is followed by a comma. -/
def tupleText : List Int → String
  | [id] => "(" ++ toString id ++ ",)"
  | ids => "(" ++ ", ".intercalate (ids.map toString) ++ ")"

/-- How a path is shown. -/
def inspect (path : ScopePath) : String := "ScopePath(" ++ listText path.ids ++ ")"

/-! ### The two readings of a path -/

@[simp] theorem ids_top : top.ids = [topId] := rfl

@[simp] theorem ids_push (path : ScopePath) (id : Int) : (path.push id).ids = path.ids ++ [id] := by
  simp [ids, push]

@[simp] theorem innermostFirst_push (path : ScopePath) (id : Int) :
    (path.push id).innermostFirst = id :: path.innermostFirst := rfl

theorem innermostFirst_eq_reverse (path : ScopePath) : path.innermostFirst = path.ids.reverse := by
  simp [innermostFirst, ids]

@[simp] theorem current_push (path : ScopePath) (id : Int) : (path.push id).current = id := rfl

theorem current_mem_ids (path : ScopePath) : path.current ∈ path.ids := by
  obtain ⟨inner⟩ := path
  cases inner with
  | nil => exact List.mem_singleton_self _
  | cons id outer => simp [ids, current]

@[simp] theorem length_ids (path : ScopePath) : path.ids.length = path.length := by
  simp [ids, length]

/-- Every path is read back from its ids. -/
@[simp] theorem ofIds?_ids (path : ScopePath) : ofIds? path.ids = some path := by
  simp [ids, ofIds?]

end ScopePath

end SmallLisp
