/-
**Changing parts.** Symbols, pairs and scope paths stay what they are once made: a request to set
any part of one is refused. A pair refuses to drop a part in the same way. The others do let go of
their own parts, but of nothing else that a name may mean to them: what they compute, what they can
do, and what kind of thing they are stays.
-/

namespace SmallLisp

/-- The things whose parts cannot be set. -/
inductive Frozen where
  | symbol
  | pair
  | path
  deriving DecidableEq, Repr

/-- The name of such a thing. -/
def Frozen.name : Frozen → String
  | .symbol => "Symbol"
  | .pair => "Pair"
  | .path => "ScopePath"

/-- What a name means to a thing: a part of it, something computed from its parts, one of its
operations, its kind, or nothing. -/
inductive Member where
  | part
  | computed
  | operation
  | kind
  | nothing
  deriving DecidableEq, Repr

/-- The requests to change a thing. -/
inductive Change where
  | set
  | drop
  deriving DecidableEq, Repr

/-- Why a change is refused. -/
inductive Refusal where
  /-- the thing never changes -/
  | immutable (thing : Frozen)
  /-- the name means something that is computed -/
  | computed (thing : Frozen) (name : String)
  /-- the name means an operation -/
  | readOnly (thing : Frozen) (name : String)
  /-- the name means the kind of the thing -/
  | kind
  /-- the name means nothing -/
  | unknown (thing : Frozen) (name : String)
  deriving DecidableEq, Repr

/-- The wording of a refusal. -/
def Refusal.message : Refusal → String
  | .immutable thing => thing.name ++ " is immutable"
  | .computed thing name =>
    "property '" ++ name ++ "' of '" ++ thing.name ++ "' object has no deleter"
  | .readOnly thing name =>
    "'" ++ thing.name ++ "' object attribute '" ++ name ++ "' is read-only"
  | .kind => "can't delete __class__ attribute"
  | .unknown thing name => "'" ++ thing.name ++ "' object has no attribute '" ++ name ++ "'"

namespace Frozen

/-- Drops what a name means to a symbol or a path. -/
def dropMember (thing : Frozen) (name : String) : Member → Except Refusal Unit
  | .part => .ok ()
  | .computed => .error (.computed thing name)
  | .operation => .error (.readOnly thing name)
  | .kind => .error .kind
  | .nothing => .error (.unknown thing name)

/-- The answer to a request to change what a name means to a thing. -/
def change (thing : Frozen) (request : Change) (name : String) (member : Member) :
    Except Refusal Unit :=
  match request, thing with
  | .set, _ | .drop, .pair => .error (.immutable thing)
  | .drop, _ => thing.dropMember name member

end Frozen

end SmallLisp
