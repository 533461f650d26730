import QueryTemplate.Value.Basic

/-!
# Equality of values

Values are equal by content: numbers by what they stand for, containers by their items.  Inside a
container a truth value is as good as the number one or zero; `Value.same`, which conditions use,
keeps the two apart at the top.  Inside a container an object is also equal to itself unasked, so
two lists that hold one object agree even where it is not a number; `Value.equal` asks it at the
top.

A record is equal to no other value here.  That is a limit: it is taken to be of a class of its own,
while records of one class may compare their fields or follow a rule of their own.

Elements of sets and keys of maps are found by `Value.isSameKey`, which tells apart some times of
day that are equal.  Comparing with a signaling number is undefined, and containers are compared
item by item up to the first difference, so it depends on the order of the items whether such a
number is met.
-/

namespace QueryTemplate

/-- Why a comparison has no answer. -/
inductive ComparisonError where
  | undefined (e : Number.Undefined)
  /-- A container has more items than can be counted. -/
  | tooMany
  deriving DecidableEq

namespace Value

/-- Equality inside a container of values that hold no others; those that do are equal to none
here. -/
def equalSingle (a b : Value) : Except Number.Undefined Bool :=
  match a, b with
  | .null, .null => .ok true
  | .text s, .text t => .ok (s == t)
  | .range p, .range q => .ok (p.sameItems q)
  | .bytes _ x, .bytes _ y => .ok (x == y)
  | .date x, .date y => .ok (x.order y == .eq)
  | .time x, .time y => .ok (x.order? y == some .eq)
  | .moment x, .moment y => .ok (x.order? y == some .eq)
  | a, b =>
    match a.number?, b.number? with
    | some m, some n => m.equalWithin n
    | _, _ => .ok false

/-! ## Elements and keys -/

mutual

/-- Do two elements of sets, or two keys of maps, count as one?  They have to be equal, and times of
day among them have to coincide.  Comparing them never is undefined. -/
def isSameKey : Value → Value → Bool
  | .tuple xs, .tuple ys => areSameKeys xs ys
  | .set _ xs, .set _ ys => xs.length == ys.length && areKeysAmong xs ys
  | .time x, .time y => x.coincides y
  | a, b =>
    match equalSingle a b with
    | .ok r => r
    | .error _ => false
termination_by structural x => x

/-- Do items count as one in order, and are they equally many? -/
def areSameKeys : List Value → List Value → Bool
  | [], [] => true
  | x :: xs, y :: ys => isSameKey x y && areSameKeys xs ys
  | _, _ => false
termination_by structural x => x

/-- Does every element count as one of the others? -/
def areKeysAmong : List Value → List Value → Bool
  | [], _ => true
  | x :: xs, ys => ys.any (fun y => isSameKey x y) && areKeysAmong xs ys
termination_by structural x => x

end

/-! ## Equality -/

mutual

/-- Equality by content inside a container, of the first value with the second or, mirrored, of the
second with the first.  Either way the recursion is on the first. -/
def equalFrom : Bool → Value → Value → Except Number.Undefined Bool
  | mirrored, .list xs, .list ys =>
    if xs.length = ys.length then equalItems mirrored xs ys else .ok false
  | mirrored, .tuple xs, .tuple ys => equalItems mirrored xs ys
  | mirrored, .set _ xs, .set _ ys =>
    .ok (xs.length == ys.length && if mirrored then areKeysAmong ys xs else areKeysAmong xs ys)
  | mirrored, .map readOnly es, .map readOnly' fs =>
    if es.length ≠ fs.length then .ok false
    -- A map on the left is asked, unless the one on the right can only be read.
    else if (if mirrored then readOnly else !readOnly') then entriesIn es fs
    else fs.allM fun f => entryIn es f.1 f.2
  | mirrored, a, b => if mirrored then equalSingle b a else equalSingle a b
termination_by structural _ x => x

/-- Are the items equal in order, and equally many? -/
def equalItems : Bool → List Value → List Value → Except Number.Undefined Bool
  | _, [], [] => .ok true
  | mirrored, x :: xs, y :: ys => do
    if ← equalFrom mirrored x y then equalItems mirrored xs ys else .ok false
  | _, _, _ => .ok false
termination_by structural _ x => x

/-- Has every entry its counterpart among the others? -/
def entriesIn : List (Value × Value) → List (Value × Value) → Except Number.Undefined Bool
  | [], _ => .ok true
  | (k, v) :: es, fs =>
    match fs.find? fun f => k.isSameKey f.1 with
    | none => .ok false
    | some f => do if ← equalFrom false v f.2 then entriesIn es fs else .ok false
termination_by structural x => x

/-- Is there the counterpart of an entry with this key and this value? -/
def entryIn : List (Value × Value) → Value → Value → Except Number.Undefined Bool
  | [], _, _ => .ok false
  | (k, v) :: es, key, value =>
    if key.isSameKey k then equalFrom true v value else entryIn es key value
termination_by structural x => x

end

/-- Equality by content of two values that containers hold. -/
def equalWithin (a b : Value) : Except Number.Undefined Bool :=
  equalFrom false a b

/-- Equality by content.  At the top one object is compared with itself like any two. -/
def equal : Value → Value → Except Number.Undefined Bool
  | .number m, .number n => m.equal n
  | a, b => a.equalWithin b

/-- Equality of two operands: by content, but a truth value equals no number. -/
def same (a b : Value) : Except Number.Undefined Bool :=
  if a.isBool = b.isBool then a.equal b else .ok false

/-- Equality of a value with itself: only numbers may fail it, or signal. -/
def equalItself : Value → Except Number.Undefined Bool
  | .number n => n.equal n
  | _ => .ok true

/-- Membership among the items of a container; without an answer when a side is null or the
second is no container. -/
def memberOf (a b : Value) : Except ComparisonError (Option Bool) :=
  if a.isNull || b.isNull then .ok none
  else match b.items? with
    | none => .ok none
    | some items =>
      if b.hasTooManyItems then .error .tooMany
      else (some <$> items.anyM (a.same ·)).mapError .undefined

/-! ## Order -/

/-- The order of two values, where they have one: numbers by what they stand for, texts by code
point, and bytes, dates and times with their own kind. -/
def order? : Value → Value → Except Number.Undefined (Option Ordering)
  | .number m, .number n => m.order n
  | .text s, .text t => .ok (some (compare s t))
  | .bytes growable a, .bytes growable' b =>
    .ok (if growable = growable' then some (List.compareLex compare a b) else none)
  | .date a, .date b => .ok (some (a.order b))
  | .time a, .time b => .ok (a.order? b)
  | .moment a, .moment b => .ok (a.order? b)
  | _, _ => .ok none

end Value

end QueryTemplate
