import HostValue.Function.Basic

/-!
# Identifiers made at random

Universally unique identifiers of version 4: 128 bits, of which four name the version, two name the
variant, and the others are random.
-/

namespace HostValue

structure Uuid where
  bits : BitVec 128
  deriving DecidableEq

namespace Uuid

def ofRandom (random : BitVec 128) : Uuid :=
  let versionMask : BitVec 128 := 0xF <<< 76
  let variantMask : BitVec 128 := 0x3 <<< 62
  ⟨(random &&& ~~~(versionMask ||| variantMask)) ||| (0x4 <<< 76) ||| (0x2 <<< 62)⟩

def digit (uuid : Uuid) (position : Nat) : Char :=
  Nat.digitChar (uuid.bits.toNat / Nat.pow 16 (31 - position) % 16)

def digits (uuid : Uuid) (first last : Nat) : List Char :=
  (List.range (last - first)).map (fun offset => uuid.digit (first + offset))

def render (uuid : Uuid) : String :=
  String.ofList <| ['-'].intercalate
    [uuid.digits 0 8, uuid.digits 8 12, uuid.digits 12 16, uuid.digits 16 20, uuid.digits 20 32]

end Uuid

namespace UuidFunction

def uuidv4 : Function where
  name := "uuidv4"
  description := "returns a new, randomly generated v4 UUID"
  call context arguments := do
    Call.ofExcept (checkCount "uuidv4" arguments.length 0)
    let uuid := Uuid.ofRandom (BitVec.ofNat 128 context.entropy)
    return return .string uuid.render
  inRange _ arguments := by
    apply Call.InRange.demand
    intro _
    exact .ok _

def table : List Function :=
  [uuidv4]

end UuidFunction

end HostValue
