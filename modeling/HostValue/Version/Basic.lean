import HostValue.Number.Digits

/-!
# Versions

Semantic versions: three numbers, pre-release identifiers and build identifiers. This module holds
the type, its text and its precedence.
-/

namespace HostValue

inductive PreRelease where
  | numeric (number : UInt64)
  | alphanumeric (text : String)
  deriving DecidableEq

structure Version where
  major : UInt64
  minor : UInt64
  patch : UInt64
  pre : List PreRelease
  build : List String
  deriving DecidableEq

namespace PreRelease

def render : PreRelease → String
  | .numeric number => renderNat number.toNat
  | .alphanumeric text => text

/-- Precedence of identifiers: numbers below texts, numbers by value, texts by their characters. -/
def order : PreRelease → PreRelease → Ordering
  | .numeric m, .numeric n => compare m n
  | .numeric _, .alphanumeric _ => .lt
  | .alphanumeric _, .numeric _ => .gt
  | .alphanumeric s, .alphanumeric t => compare s t

def orderList : List PreRelease → List PreRelease → Ordering
  | [], [] => .eq
  | [], _ :: _ => .lt
  | _ :: _, [] => .gt
  | p :: ps, q :: qs => (p.order q).then (orderList ps qs)

end PreRelease

namespace Version

def isPreRelease (version : Version) : Bool :=
  !version.pre.isEmpty

def render (version : Version) : String :=
  renderNat version.major.toNat ++ "." ++ renderNat version.minor.toNat ++ "." ++
    renderNat version.patch.toNat ++
    (if version.pre.isEmpty then "" else "-" ++ ".".intercalate (version.pre.map PreRelease.render)) ++
    (if version.build.isEmpty then "" else "+" ++ ".".intercalate version.build)

/-- Precedence of pre-releases: a release stands above each of its pre-releases. -/
def orderPre : List PreRelease → List PreRelease → Ordering
  | [], [] => .eq
  | [], _ :: _ => .gt
  | _ :: _, [] => .lt
  | left, right => PreRelease.orderList left right

/-- Precedence of versions. Build identifiers take no part in it. -/
def order (left right : Version) : Ordering :=
  (compare left.major right.major).then <|
    (compare left.minor right.minor).then <|
      (compare left.patch right.patch).then (orderPre left.pre right.pre)

def order? (left right : Version) : Option Ordering :=
  some (left.order right)

def same (left right : Version) : Bool :=
  left.order right == .eq

end Version

end HostValue
