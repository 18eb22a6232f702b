/-!
The bodies of responses: bytes that arrive piece by piece until they end or break off, and how they
are read into memory, to their end or up to a limit. What ends the bytes may be found in the read
that gives the last of them, or in one of its own.
-/

namespace TapeMachine

/-- What comes behind the last byte. -/
inductive BodyEnd where
  /-- There is nothing more. -/
  | whole
  /-- The bytes break off, for a reason. -/
  | broken (message : String)
  deriving DecidableEq, Inhabited

/-- The bytes of a response as they arrive, and what ends them. -/
structure Body where
  /-- The bytes that are read before the end is found. -/
  chunks : List ByteArray := []
  /-- The bytes that come together with what ends them; none if that takes a read of its own. -/
  last : ByteArray := ByteArray.empty
  ending : BodyEnd := .whole
  deriving Inhabited

/-- What a read finds: bytes, of which there may be none yet, and what ends them, if it comes with
them.
-/
structure Arrival where
  content : ByteArray := ByteArray.empty
  ending : Option BodyEnd := none
  deriving Inhabited

namespace Body

/-- Reads from a body for which there is so much room. A read takes bytes of one chunk only, and
leaves what it has no room for to the next. Behind the end every read finds the end again.
-/
def read (body : Body) (room : Nat) : Arrival × Body :=
  match body.chunks with
  | [] =>
    if body.last.size ≤ room then
      ({ content := body.last, ending := some body.ending }, { body with last := ByteArray.empty })
    else
      ({ content := body.last.extract 0 room },
        { body with last := body.last.extract room body.last.size })
  | chunk :: rest =>
    if chunk.size ≤ room then ({ content := chunk }, { body with chunks := rest })
    else
      ({ content := chunk.extract 0 room },
        { body with chunks := chunk.extract room chunk.size :: rest })

/-- How much there is to read: the bytes, and the chunks that hold them. -/
def weight (body : Body) : Nat :=
  body.chunks.foldr (fun chunk rest => chunk.size + 1 + rest) body.last.size

/-- A read with any room at all leaves less to read, unless it finds the end. -/
theorem weight_read {body rest : Body} {room : Nat} {content : ByteArray} (positive : 0 < room)
    (read : body.read room = ({ content }, rest))
    : rest.weight < body.weight := by
  unfold Body.read at read
  cases chunks : body.chunks with
  | nil =>
      simp only [chunks] at read
      split at read
      · cases (Prod.mk.inj read).1
      · obtain ⟨-, rfl⟩ := Prod.mk.inj read
        simp only [weight, chunks, List.foldr_nil, ByteArray.size_extract]
        omega
  | cons chunk others =>
      simp only [chunks] at read
      split at read
      · obtain ⟨-, rfl⟩ := Prod.mk.inj read
        simp only [weight, chunks, List.foldr_cons]
        omega
      · obtain ⟨-, rfl⟩ := Prod.mk.inj read
        simp only [weight, chunks, List.foldr_cons, ByteArray.size_extract]
        omega

end Body

/-- A body of which only so many bytes can be read. Behind them it seems to end. -/
structure LimitedBody where
  body : Body
  left : Nat
  deriving Inhabited

namespace LimitedBody

/-- Reads from a limited body for which there is so much room. What ends the bytes is passed on even
if it comes with the last one that the limit lets through.
-/
def read (source : LimitedBody) (room : Nat) : Arrival × LimitedBody :=
  if source.left = 0 then ({ ending := some .whole }, source)
  else
    let (arrival, body) := source.body.read (min room source.left)
    (arrival, { body, left := source.left - arrival.content.size })

/-- Under the limit as well there is less to read after a read that did not find the end. -/
theorem weight_read {source rest : LimitedBody} {room : Nat} {content : ByteArray}
    (positive : 0 < room) (read : source.read room = ({ content }, rest))
    : rest.body.weight < source.body.weight := by
  unfold LimitedBody.read at read
  split at read
  · cases (Prod.mk.inj read).1
  · obtain ⟨found, rfl⟩ := Prod.mk.inj read
    exact Body.weight_read (by omega) (Prod.ext found rfl)

end LimitedBody

/-- How much room is made for the next read when so many bytes have been read. -/
structure Buffering where
  room : Nat → Nat
  room_pos : ∀ size, 0 < room size

/-- Room for 512 bytes, or for as many as have been read if these are more. -/
def Buffering.doubling : Buffering where
  room size := max 512 size
  room_pos size := by omega

/-- Reads a limited body to its end, behind the bytes that have been read already, or up to what
breaks it off.
-/
def LimitedBody.readAll (source : LimitedBody) (buffering : Buffering) (past : ByteArray)
    : Except String ByteArray :=
  match _found : source.read (buffering.room past.size) with
  | ({ content, ending := none }, rest) => rest.readAll buffering (past ++ content)
  | ({ content, ending := some .whole }, _) => .ok (past ++ content)
  | ({ ending := some (.broken message), .. }, _) => .error message
termination_by source.body.weight
decreasing_by exact weight_read (buffering.room_pos _) _found

end TapeMachine
