import HostValue.DeepCopy
import HostValue.Path.Basic

/-!
# Access by path

Reading and replacing the value that a path leads to. A write leaves its input alone and returns the
updated root. It may add one key, namely the last one of the path; it makes no containers.
-/

namespace HostValue

def noSuchKey (key : String) : ValueError :=
  .path ("no such key " ++ Text.quoted key)

def outOfRange (position : UInt64) (length : Nat) : ValueError :=
  .path ("index " ++ renderNat position.toNat ++ " out of range for vector of length " ++
    renderNat length)

def wrongContainer (value : Value) : Segment → ValueError
  | .key _ => .typeMismatch "object" value.typeName
  | .index _ => .typeMismatch "vector" value.typeName

namespace Value

def getSegment (value : Value) (segment : Segment) : Except ValueError Value :=
  match value, segment with
  | .object entries, .key key =>
    match Entries.get? entries key with
    | some child => .ok child
    | none => .error (noSuchKey key)
  | .vector items, .index position =>
    match items[position.toNat]? with
    | some child => .ok child
    | none => .error (outOfRange position items.length)
  | .hosted _ payload, .key key =>
    match payload.readField? key with
    | some outcome => outcome
    | none => .error (.typeMismatch "object" payload.typeName)
  | value, segment => .error (wrongContainer value segment)

def getPath (root : Value) : Path → Except ValueError Value
  | [] => .ok root
  | segment :: rest =>
    match root.getSegment segment with
    | .ok child => child.getPath rest
    | .error error => .error error

/-- The root with the value that a path leads to replaced. Hosted values on the path write the field
themselves and get a new handle. -/
def setPath (root : Value) (path : Path) (new : Value) : Fresh Value :=
  match path with
  | [] => return new
  | segment :: rest =>
    match root, segment with
    | .object entries, .key key => do
      let child ← match Entries.get? entries key with
        | some child => child.setPath rest new
        | none => if rest.isEmpty then pure new else throw (noSuchKey key)
      return .object (Entries.put entries key child)
    | .vector items, .index position =>
      match items[position.toNat]? with
      | some current => do
        let child ← current.setPath rest new
        return .vector (items.set position.toNat child)
      | none => throw (outOfRange position items.length)
    | .hosted identity payload, .key key =>
      if payload.offers .set then do
        let child ←
          if rest.isEmpty then
            pure new
          else do
            let current ← Fresh.ofExcept ((Value.hosted identity payload).getSegment (.key key))
            current.setPath rest new
        match payload.writeField? key child with
        | some outcome => (← Fresh.ofExcept outcome).host
        | none => throw (.typeMismatch "writable object" payload.typeName)
      else
        throw (.typeMismatch "writable object" payload.typeName)
    | root, segment => throw (wrongContainer root segment)

end Value

end HostValue
